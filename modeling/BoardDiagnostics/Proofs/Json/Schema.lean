import BoardDiagnostics.Proofs.Json.Grammar
import Mathlib.Data.List.Nodup

/-!
# What the members of an object make of a record

A record has slots, each of which is given by the value under its key.  Members are taken up one
after another; a key that is given twice, and a value that means nothing in its slot, spoil the
record.  What comes of it in the end is told slot by slot, without the order of the members.
-/

set_option autoImplicit false

namespace BoardDiagnostics.Json

/-- The values that members have under a key. -/
def under (key : String) (members : List (Option String × Value)) : List Value :=
  members.filterMap fun member => if member.1 = some key then some member.2 else none

/-- The members of the object under a key; there are none if there is no such object. -/
def membersUnder (key : String) (members : List (Option String × Value)) :
    List (Option String × Value) :=
  match under key members with
  | [.object inner] => inner
  | _ => []

/-- A kind of values. -/
inductive Kind where
  | truth
  /-- Whole numbers of so many bits. -/
  | natural (bits : Nat)
  /-- Such a number, or `null`. -/
  | optional (bits : Nat)
  /-- Lists of strings. -/
  | texts
  /-- Objects with values of certain kinds under certain keys. -/
  | record (fields : List (String × Kind))

/-- A value is of a kind. -/
inductive Fits : Kind → Value → Prop where
  | truth (b : Bool) : Fits .truth (.boolean b)
  | natural {bits n : Nat} {literal : NumberLiteral} (written : literal.natural? = some n)
      (fits : n < 1 <<< bits) : Fits (.natural bits) (.number literal)
  | null {bits : Nat} : Fits (.optional bits) .null
  | optional {bits : Nat} {value : Value} (fits : Fits (.natural bits) value) :
      Fits (.optional bits) value
  | texts (texts : List String) : Fits .texts (.array (texts.map fun text => .string (some text)))
  /-- Every name is a text, no key of a field is repeated, and the value under it is of the kind of
  the field.  Other members may have any values. -/
  | record {fields : List (String × Kind)} {members : List (Option String × Value)}
      (named : ∀ member ∈ members, member.1.isSome = true)
      (once : ∀ field ∈ fields, (under field.1 members).length ≤ 1)
      (fits : ∀ field ∈ fields, ∀ value ∈ under field.1 members, Fits field.2 value) :
      Fits (.record fields) (.object members)

/-- Two values that do not differ for a kind: the order of members makes no difference, and other
members than those of the kind make none. -/
inductive Alike : Kind → Value → Value → Prop where
  | refl (kind : Kind) (value : Value) : Alike kind value value
  | symm {kind : Kind} {value other : Value} (alike : Alike kind value other) :
      Alike kind other value
  | trans {kind : Kind} {value other third : Value} (alike : Alike kind value other)
      (others_alike : Alike kind other third) : Alike kind value third
  | order {members others : List (Option String × Value)} (fields : List (String × Kind))
      (perm : members.Perm others) : Alike (.record fields) (.object members) (.object others)
  | unknown {fields : List (String × Kind)} {key : String} (unknown : key ∉ fields.map Prod.fst)
      (value : Value) (members : List (Option String × Value)) :
      Alike (.record fields) (.object ((some key, value) :: members)) (.object members)
  | inside {fields : List (String × Kind)} {key : String} {kind : Kind} {value other : Value}
      (known : (key, kind) ∈ fields) (alike : Alike kind value other)
      (members : List (Option String × Value)) :
      Alike (.record fields) (.object ((some key, value) :: members))
        (.object ((some key, other) :: members))

/-- Values of the kind are records. -/
def Kind.isRecord : Kind → Bool
  | record _ => true
  | _ => false

/-- Only records have members that make no difference. -/
theorem Alike.eq_of_flat {kind : Kind} {value other : Value} (alike : Alike kind value other)
    (flat : kind.isRecord = false) : value = other := by
  induction alike with
  | refl => rfl
  | symm _ ih => exact (ih flat).symm
  | trans _ _ ih others_ih => exact (ih flat).trans (others_ih flat)
  | order | unknown | inside => cases flat

/-- What is given by the values under a key: the standard content if there is none, and what the
value means if there is one. -/
inductive Given {α : Type} (means : Value → Option α) (standard : α) : List Value → α → Prop where
  | absent : Given means standard [] standard
  | present {value : Value} {a : α} (meant : means value = some a) :
      Given means standard [value] a

/-- Values with the same meanings, in any order, give the same. -/
theorem Given.unique {α : Type} {means : Value → Option α} {standard a b : α}
    {values others : List Value} (same : (values.map means).Perm (others.map means))
    (given : Given means standard values a) (other_given : Given means standard others b) :
    a = b := by
  cases given with
  | absent =>
    cases other_given with
    | absent => rfl
    | present => exact absurd same.length_eq nofun
  | present meant =>
    cases other_given with
    | absent => exact absurd same.length_eq nofun
    | present other_meant =>
      have equal := List.Perm.singleton_eq same
      simp only [List.map_cons, List.map_nil, meant, other_meant] at equal
      cases equal
      rfl

section

variable {key : String} {name : Option String} {value : Value}
  {members : List (Option String × Value)}

/-- A member in front is the first under its key. -/
theorem under_cons_self :
    under key ((some key, value) :: members) = value :: under key members := by
  simp [under]

/-- A member in front of another name is not under the key. -/
theorem under_cons_of_ne (other : name ≠ some key) :
    under key ((name, value) :: members) = under key members := by
  simp [under, other]

/-- The value of a member in front is found under its name. -/
theorem mem_under_cons {member : Option String × Value} (named : member.1 = some key) :
    member.2 ∈ under key (member :: members) := by
  simp [under, named]

/-- A value stays under its key when a member is put in front. -/
theorem mem_under_cons_of_mem {member : Option String × Value}
    (inside : value ∈ under key members) : value ∈ under key (member :: members) :=
  ((List.sublist_cons_self member members).filterMap _).subset inside

end

/-- A slot of a record: its key, what values mean in it, and the place of its content.  A value
means something exactly if it is of the kind of the slot. -/
structure Slot (ρ : Type) where
  key : String
  kind : Kind
  {Content : Type}
  means : Value → Option Content
  get : ρ → Content
  set : Content → ρ → ρ
  fits_iff : ∀ value, (means value).isSome = true ↔ Fits kind value
  congr : ∀ value other, Alike kind value other → means value = means other
  get_set : ∀ value a, means value = some a → ∀ record, get (set a record) = a

/-- The slots of a record, each with its own key and its own place. -/
structure Schema (ρ : Type) where
  slots : List (Slot ρ)
  standard : ρ
  distinct : (slots.map Slot.key).Nodup
  get_set_of_ne : ∀ slot ∈ slots, ∀ other ∈ slots, slot.key ≠ other.key →
    ∀ a record, slot.get (other.set a record) = slot.get record
  ext : ∀ record other, (∀ slot ∈ slots, slot.get record = slot.get other) → record = other

namespace Schema

variable {ρ : Type} (schema : Schema ρ)

/-- The kind of the objects that make such records. -/
def kind : Kind := .record (schema.slots.map fun slot => (slot.key, slot.kind))

/-- Take up members one after another, given the keys that were met and the record that they have
made. -/
def absorb : List String → ρ → List (Option String × Value) → Option ρ
  | _, record, [] => some record
  | _, _, (none, _) :: _ => none
  | met, record, (some key, value) :: members =>
    match schema.slots.find? fun slot => slot.key = key with
    | none => absorb met record members
    | some slot =>
      if key ∈ met then none
      else (slot.means value).bind fun a => absorb (key :: met) (slot.set a record) members

/-- The record that members make of the standard one. -/
def ofMembers? (members : List (Option String × Value)) : Option ρ :=
  schema.absorb [] schema.standard members

/-- The record that a value makes, which must be an object. -/
def ofValue? : Value → Option ρ
  | .object members => schema.ofMembers? members
  | _ => none

/-- Members can be taken up after some keys were met. -/
structure Admits (met : List String) (members : List (Option String × Value)) : Prop where
  named : ∀ member ∈ members, member.1.isSome = true
  once : ∀ slot ∈ schema.slots,
    (under slot.key members).length + (if slot.key ∈ met then 1 else 0) ≤ 1
  means : ∀ slot ∈ schema.slots, ∀ value ∈ under slot.key members,
    (slot.means value).isSome = true

section

variable {schema} {slot : Slot ρ} {key : String} {value : Value} {met : List String} {record : ρ}
  {members : List (Option String × Value)}

/-- A slot of a schema is known by its key. -/
theorem eq_of_key {other : Slot ρ} (slot_mem : slot ∈ schema.slots)
    (other_mem : other ∈ schema.slots) (same : slot.key = other.key) : slot = other :=
  List.inj_on_of_nodup_map schema.distinct slot_mem other_mem same

/-- No slot has a key that none is found for. -/
theorem key_ne_of_unknown (unknown : schema.slots.find? (fun slot => slot.key = key) = none)
    (slot_mem : slot ∈ schema.slots) : slot.key ≠ key := by
  have := List.find?_eq_none.mp unknown slot slot_mem
  simpa using this

/-- A slot that is found for a key belongs to the schema and has that key. -/
theorem mem_and_key_of_known (known : schema.slots.find? (fun slot => slot.key = key) = some slot) :
    slot ∈ schema.slots ∧ slot.key = key :=
  ⟨List.mem_of_find?_eq_some known, by simpa using List.find?_some known⟩

/-- A member of unknown name leaves the record as it is. -/
theorem absorb_unknown (unknown : schema.slots.find? (fun slot => slot.key = key) = none) :
    schema.absorb met record ((some key, value) :: members) = schema.absorb met record members := by
  rw [absorb]
  simp only [unknown]

/-- A member of known name sets its slot once; a second one is refused. -/
theorem absorb_known (known : schema.slots.find? (fun slot => slot.key = key) = some slot) :
    schema.absorb met record ((some key, value) :: members) =
      if key ∈ met then none
      else (slot.means value).bind fun a =>
        schema.absorb (key :: met) (slot.set a record) members := by
  rw [absorb]
  simp only [known]

/-- A member of unknown name makes no difference to what is admitted. -/
theorem admits_unknown_iff (unknown : schema.slots.find? (fun slot => slot.key = key) = none) :
    schema.Admits met ((some key, value) :: members) ↔ schema.Admits met members := by
  have same : ∀ slot ∈ schema.slots,
      under slot.key ((some key, value) :: members) = under slot.key members := by
    intro slot slot_mem
    have other := key_ne_of_unknown unknown slot_mem
    exact under_cons_of_ne fun same => other (Option.some.inj same).symm
  constructor
  · rintro ⟨named, once, means⟩
    refine ⟨fun member inside => named member (List.mem_cons_of_mem _ inside), ?_, ?_⟩
    · intro slot slot_mem
      exact same slot slot_mem ▸ once slot slot_mem
    · intro slot slot_mem
      exact same slot slot_mem ▸ means slot slot_mem
  · rintro ⟨named, once, means⟩
    refine ⟨?_, ?_, ?_⟩
    · intro member inside
      rcases List.mem_cons.mp inside with rfl | later
      · rfl
      · exact named member later
    · intro slot slot_mem
      exact (same slot slot_mem).symm ▸ once slot slot_mem
    · intro slot slot_mem
      exact (same slot slot_mem).symm ▸ means slot slot_mem

/-- A key is met at most once from here on if it is not met again. -/
theorem once_cons_iff {own : String} :
    (under own ((some key, value) :: members)).length + (if own ∈ met then 1 else 0) ≤ 1 ↔
      (own = key → own ∉ met) ∧
        (under own members).length + (if own ∈ key :: met then 1 else 0) ≤ 1 := by
  by_cases same : own = key
  · subst same
    rw [under_cons_self, List.length_cons, if_pos List.mem_cons_self]
    by_cases repeated : own ∈ met
    · simp [repeated]
    · simp [repeated]
  · rw [under_cons_of_ne fun h => same (Option.some.inj h).symm]
    simp [same]

/-- Under a key stand the member in front, if it has that name, and those behind it. -/
theorem mem_under_cons_iff {own : String} {content : Value} :
    content ∈ under own ((some key, value) :: members) ↔
      (own = key ∧ content = value) ∨ content ∈ under own members := by
  by_cases same : own = key
  · subst same
    rw [under_cons_self, List.mem_cons]
    simp
  · rw [under_cons_of_ne fun h => same (Option.some.inj h).symm]
    simp [same]

/-- A member of known name is admitted once, with a value of its slot's kind. -/
theorem admits_known_iff (known : schema.slots.find? (fun slot => slot.key = key) = some slot) :
    schema.Admits met ((some key, value) :: members) ↔
      key ∉ met ∧ (slot.means value).isSome = true ∧ schema.Admits (key :: met) members := by
  obtain ⟨slot_mem, rfl⟩ := mem_and_key_of_known known
  constructor
  · rintro ⟨named, once, means⟩
    have unmet := (once_cons_iff.mp (once slot slot_mem)).1 rfl
    have meant := means slot slot_mem value (mem_under_cons rfl)
    refine ⟨unmet, meant, fun member inside => named member (List.mem_cons_of_mem _ inside), ?_, ?_⟩
    · intro other other_mem
      exact (once_cons_iff.mp (once other other_mem)).2
    · intro other other_mem content inside
      exact means other other_mem content (mem_under_cons_of_mem inside)
  · rintro ⟨unmet, meant, named, once, means⟩
    refine ⟨?_, ?_, ?_⟩
    · intro member inside
      rcases List.mem_cons.mp inside with rfl | later
      · rfl
      · exact named member later
    · intro other other_mem
      have first : other.key = slot.key → other.key ∉ met := fun same => same ▸ unmet
      exact once_cons_iff.mpr ⟨first, once other other_mem⟩
    · intro other other_mem content inside
      rcases mem_under_cons_iff.mp inside with ⟨same, rfl⟩ | later
      · obtain rfl := eq_of_key other_mem slot_mem same
        exact meant
      · exact means other other_mem content later

/-- Members are taken up if they can be. -/
theorem absorb_isSome_iff :
    (schema.absorb met record members).isSome = true ↔ schema.Admits met members := by
  induction members generalizing met record with
  | nil =>
    refine ⟨fun _ => ⟨nofun, fun slot _ => ?_, nofun⟩, fun _ => rfl⟩
    show 0 + (if slot.key ∈ met then 1 else 0) ≤ 1
    split <;> omega
  | cons member members ih =>
    obtain ⟨name, value⟩ := member
    cases name with
    | none =>
      refine ⟨nofun, fun admits => ?_⟩
      cases admits.named (none, value) List.mem_cons_self
    | some key =>
      cases found : schema.slots.find? fun slot => slot.key = key with
      | none => rw [absorb_unknown found, admits_unknown_iff found, ih]
      -- A known member moves its key to those that were met, on both sides.
      | some slot =>
        rw [absorb_known found, admits_known_iff found]
        by_cases repeated : key ∈ met
        · simp [repeated]
        · cases meant : slot.means value with
          | none => simp [repeated]
          | some a => simp [repeated, ih]

/-- What is in a slot in the end is what was in it before, unless a member gives something else. -/
theorem given_of_absorb {result : ρ} (absorbed : schema.absorb met record members = some result)
    (slot_mem : slot ∈ schema.slots) :
    Given slot.means (slot.get record) (under slot.key members)
      (slot.get result) := by
  induction members generalizing met record with
  | nil =>
    obtain rfl := Option.some.inj absorbed
    exact .absent
  | cons member members ih =>
    obtain ⟨name, value⟩ := member
    cases name with
    | none => cases absorbed
    | some key =>
      cases found : schema.slots.find? fun slot => slot.key = key with
      | none =>
        rw [absorb_unknown found] at absorbed
        have other := key_ne_of_unknown found slot_mem
        rw [under_cons_of_ne fun h => other (Option.some.inj h).symm]
        exact ih absorbed
      | some known =>
        obtain ⟨known_mem, rfl⟩ := mem_and_key_of_known found
        rw [absorb_known found] at absorbed
        split at absorbed
        · cases absorbed
        · obtain ⟨a, meant, rest⟩ := Option.bind_eq_some_iff.mp absorbed
          have later := ih rest
          by_cases same : slot.key = known.key
          · obtain rfl := eq_of_key slot_mem known_mem same
            have admits := absorb_isSome_iff.mp (Option.isSome_of_eq_some rest)
            -- The key is met now, so no later member can have it and set the slot again.
            have none_left : under slot.key members = [] := by
              have once := admits.once slot slot_mem
              rw [if_pos List.mem_cons_self] at once
              exact List.eq_nil_of_length_eq_zero (by omega)
            rw [under_cons_self, none_left]
            rw [none_left, slot.get_set value a meant] at later
            cases later
            exact .present meant
          · rw [schema.get_set_of_ne slot slot_mem known known_mem same] at later
            rw [under_cons_of_ne fun h => same (Option.some.inj h).symm]
            exact later

end

variable {schema} {members : List (Option String × Value)}

/-- Members make a record exactly if they fit the schema's kind. -/
theorem ofMembers?_isSome_iff :
    (schema.ofMembers? members).isSome = true ↔ Fits schema.kind (.object members) := by
  unfold ofMembers? kind
  rw [absorb_isSome_iff]
  constructor
  · rintro ⟨named, once, means⟩
    refine .record named ?_ ?_
    · intro field inside
      obtain ⟨slot, slot_mem, rfl⟩ := List.mem_map.mp inside
      have := once slot slot_mem
      simpa using this
    · intro field inside value member
      obtain ⟨slot, slot_mem, rfl⟩ := List.mem_map.mp inside
      exact (slot.fits_iff value).mp (means slot slot_mem value member)
  · rintro (_ | _ | _ | _ | _ | ⟨named, once, fits⟩)
    refine ⟨named, ?_, ?_⟩
    · intro slot slot_mem
      have := once (slot.key, slot.kind) (List.mem_map_of_mem slot_mem)
      simpa using this
    · intro slot slot_mem value member
      have fits := fits (slot.key, slot.kind) (List.mem_map_of_mem slot_mem) value member
      exact (slot.fits_iff value).mpr fits

/-- What is in each slot is given by the members under its key. -/
theorem given_of_ofMembers? {record : ρ} (made : schema.ofMembers? members = some record) :
    ∀ slot ∈ schema.slots,
      Given slot.means (slot.get schema.standard) (under slot.key members) (slot.get record) :=
  fun _ slot_mem => given_of_absorb made slot_mem

/-- Members that give every slot of a record once make that record. -/
theorem ofMembers?_of_given {record : ρ} (named : ∀ member ∈ members, member.1.isSome = true)
    (given : ∀ slot ∈ schema.slots, ∃ value, under slot.key members = [value] ∧
      slot.means value = some (slot.get record)) :
    schema.ofMembers? members = some record := by
  have admits : schema.Admits [] members := by
    refine ⟨named, fun slot slot_mem => ?_, fun slot slot_mem value inside => ?_⟩
    · obtain ⟨value, single, -⟩ := given slot slot_mem
      simp [single]
    · obtain ⟨own, single, meant⟩ := given slot slot_mem
      rw [single, List.mem_singleton] at inside
      rw [inside, meant]
      rfl
  obtain ⟨made, absorbed⟩ := Option.isSome_iff_exists.mp (absorb_isSome_iff.mpr admits)
  have same : made = record := by
    refine schema.ext made record fun slot slot_mem => ?_
    obtain ⟨value, single, meant⟩ := given slot slot_mem
    have own := given_of_ofMembers? absorbed slot slot_mem
    rw [single] at own
    exact Given.unique (.refl _) own (.present meant)
  exact same ▸ absorbed

/-- A record of its own under a key is made of the members there; without them it is the standard
record. -/
theorem ofMembers?_membersUnder {key : String} {record : ρ}
    (given : Given schema.ofValue? schema.standard (under key members) record) :
    schema.ofMembers? (membersUnder key members) = some record := by
  unfold membersUnder
  generalize under key members = values at given
  cases given with
  | absent => rfl
  | @present value _ meant =>
    cases value with
    | object inner => exact meant
    | null | boolean | number | string | array => cases meant

variable {others : List (Option String × Value)}

/-- Members with the same meanings under each key can be taken up as well. -/
theorem Admits.transfer {met : List String} (admits : schema.Admits met members)
    (named : ∀ member ∈ others, member.1.isSome = true)
    (same : ∀ slot ∈ schema.slots,
      ((under slot.key members).map slot.means).Perm ((under slot.key others).map slot.means)) :
    schema.Admits met others := by
  refine ⟨named, ?_, ?_⟩
  · intro slot slot_mem
    have many := (same slot slot_mem).length_eq
    have once := admits.once slot slot_mem
    simp only [List.length_map] at many
    omega
  · intro slot slot_mem value inside
    have meaning := (same slot slot_mem).mem_iff.mpr (List.mem_map_of_mem inside)
    obtain ⟨own, own_mem, equal⟩ := List.mem_map.mp meaning
    rw [← equal]
    exact admits.means slot slot_mem own own_mem

/-- What members make of a record is told by their meanings under each key. -/
theorem ofMembers?_congr
    (named : (∀ member ∈ members, member.1.isSome = true) ↔
      ∀ member ∈ others, member.1.isSome = true)
    (same : ∀ slot ∈ schema.slots,
      ((under slot.key members).map slot.means).Perm ((under slot.key others).map slot.means)) :
    schema.ofMembers? members = schema.ofMembers? others := by
  have both : (schema.ofMembers? members).isSome = true ↔
      (schema.ofMembers? others).isSome = true := by
    unfold ofMembers?
    rw [absorb_isSome_iff, absorb_isSome_iff]
    constructor
    · intro admits
      exact admits.transfer (named.mp admits.named) same
    · intro admits
      exact admits.transfer (named.mpr admits.named) fun slot slot_mem =>
        (same slot slot_mem).symm
  cases made : schema.ofMembers? members with
  | none =>
    rw [made] at both
    exact (Option.not_isSome_iff_eq_none.mp fun some => absurd (both.mpr some) nofun).symm
  | some record =>
    rw [made] at both
    obtain ⟨other, other_made⟩ := Option.isSome_iff_exists.mp (both.mp rfl)
    rw [other_made]
    refine congrArg some (schema.ext record other fun slot slot_mem => ?_)
    exact Given.unique (same slot slot_mem) (given_of_ofMembers? made slot slot_mem)
      (given_of_ofMembers? other_made slot slot_mem)

/-- Values that do not differ for the kind of the record make the same record, or make none. -/
theorem ofValue?_congr {value other : Value} (alike : Alike schema.kind value other) :
    schema.ofValue? value = schema.ofValue? other := by
  -- The value of a slot may be alike for the kind of the slot, so the kind varies in the induction.
  generalize same_kind : schema.kind = kind at alike
  induction alike with
  | refl => rfl
  | symm _ ih => exact (ih same_kind).symm
  | trans _ _ ih others_ih => exact (ih same_kind).trans (others_ih same_kind)
  | order fields perm =>
    refine ofMembers?_congr ?_ fun slot _ => ?_
    · simp only [perm.mem_iff]
    · exact (perm.filterMap _).map _
  | @unknown fields key unknown value members =>
    cases same_kind
    refine ofMembers?_congr (by simp) fun slot slot_mem => ?_
    have other : slot.key ≠ key := by
      rintro rfl
      exact unknown (List.mem_map_of_mem (List.mem_map_of_mem slot_mem))
    rw [under_cons_of_ne fun h => other (Option.some.inj h).symm]
  | @inside fields key kind value other known alike members _ =>
    cases same_kind
    refine ofMembers?_congr (by simp) fun slot slot_mem => ?_
    by_cases same : slot.key = key
    · obtain ⟨own, own_mem, pair⟩ := List.mem_map.mp known
      cases pair
      obtain rfl := eq_of_key slot_mem own_mem same
      rw [under_cons_self, under_cons_self, List.map_cons, List.map_cons,
        slot.congr value other alike]
    · have unlike : some key ≠ some slot.key := fun h => same (Option.some.inj h).symm
      rw [under_cons_of_ne unlike, under_cons_of_ne unlike]

end Schema

end BoardDiagnostics.Json
