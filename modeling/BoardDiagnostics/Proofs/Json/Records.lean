import BoardDiagnostics.Json.Record
import BoardDiagnostics.Proofs.Json.Schema
import BoardDiagnostics.Proofs.Json.Values
import Mathlib.Data.List.Forall2

/-!
# Reading records

A form of records that follows a schema understands every object as the schema does.  The reader
takes up one member after another, as the schema absorbs them, and passes over the values of
members it does not know.
-/

set_option autoImplicit false

namespace BoardDiagnostics.Json

variable {ρ : Type}

/-- The reader of the field understands what the slot means.  Nothing is said about arrays in the
place of records: the reader takes them for a list of the fields. -/
def RecordField.Matches (field : RecordField ρ) (slot : Slot ρ) : Prop :=
  field.key = slot.key ∧ ∀ value, (slot.kind.isRecord = true → value.isArray = false) →
    Understands field.read value ((slot.means value).map slot.set)

/-- A field understands the values that its reader understands, and sets what they mean. -/
theorem RecordField.understands_of {α : Type} {read : Reader α} {value : Value}
    {meaning : Option α} (understood : Understands read value meaning) (key : String)
    (set : α → ρ → ρ) : Understands (RecordField.of key read set).read value (meaning.map set) := by
  intro text spells before rest delimits
  have reads := understood text spells before rest delimits
  unfold RecordField.of
  cases meaning with
  | none =>
    obtain ⟨failure, failed⟩ := eq_error_of_toOption reads
    simp only [failed]
    rfl
  | some a =>
    simp only [eq_ok_of_toOption reads]
    rfl

namespace RecordForm

/-- The form has a field for each slot of the schema, in the order of the slots. -/
structure Follows (form : RecordForm ρ) (schema : Schema ρ) : Prop where
  standard : form.standard = schema.standard
  fields : List.Forall₂ RecordField.Matches form.fields schema.slots

/-- A key is known to the form and to the schema, or to neither. -/
theorem find_of_matches {fields : List (RecordField ρ)} {slots : List (Slot ρ)}
    (alike : List.Forall₂ RecordField.Matches fields slots) (key : String) :
    (fields.find? (fun field => field.key = key) = none ∧
      slots.find? (fun slot => slot.key = key) = none) ∨
    ∃ field slot, fields.find? (fun field => field.key = key) = some field ∧
      slots.find? (fun slot => slot.key = key) = some slot ∧ field.Matches slot := by
  induction alike with
  | nil => exact .inl ⟨rfl, rfl⟩
  | @cons field slot fields slots first _ ih =>
    by_cases found : slot.key = key
    · refine .inr ⟨field, slot, ?_, ?_, first⟩
      · exact List.find?_cons_of_pos (by simp [first.1, found])
      · exact List.find?_cons_of_pos (by simp [found])
    · rw [List.find?_cons_of_neg (by simp [first.1, found]),
        List.find?_cons_of_neg (by simp [found])]
      exact ih

/-! ### The next member -/

/-- A member behind its opening quote, with the text behind its value. -/
def opened (member : Member) (left : List Char) : List Char :=
  Piece.closed member.name ++ (member.gap.chars ++ ':' ::
    (member.element.before.chars ++ (member.element.text ++ left)))

/-- The first member is found behind its blanks, and its name is opened. -/
theorem nextMember_first (member : Member) (rest : List Char) :
    nextMember true (member.chars ++ rest) =
      .ok (.key (opened member (member.element.after.chars ++ rest))) := by
  unfold nextMember
  rw [member.chars_append, member.element.chars_append, skipBlanks_append,
    skipBlanks_cons (by decide)]
  rfl

/-- A later member is found behind a comma. -/
theorem nextMember_later (member : Member) (after : Blanks) (rest : List Char) :
    nextMember false (after.chars ++ ',' :: (member.chars ++ rest)) =
      .ok (.key (opened member (member.element.after.chars ++ rest))) := by
  unfold nextMember
  rw [skipBlanks_append, skipBlanks_cons (by decide), member.chars_append,
    member.element.chars_append]
  simp only [skipBlanks_append, skipBlanks_cons (by decide : isBlank '"' = false)]
  rfl

/-- At the closing brace there is no further member. -/
theorem nextMember_closed (isFirst : Bool) (after : Blanks) (rest : List Char) :
    nextMember isFirst (after.chars ++ '}' :: rest) = .ok (.closed rest) := by
  unfold nextMember
  rw [skipBlanks_append, skipBlanks_cons (by decide)]
  rfl

/-! ### Members one after another -/

section

variable {form : RecordForm ρ} {schema : Schema ρ} {fuel : Nat} {isFirst : Bool}
  {met : List String} {record : ρ} {cs left rest : List Char} {member : Member}
  {members : List (Option String × Value)}

/-- A record is complete at the closing brace. -/
theorem readMembersWithin_closed (after : Blanks) :
    form.readMembersWithin (fuel + 1) isFirst met record (after.chars ++ '}' :: rest) =
      .ok (record, rest) := by
  unfold readMembersWithin
  simp only [nextMember_closed]

/-- A member whose name is no text is refused. -/
theorem readMembersWithin_unnamed (next : nextMember isFirst cs = .ok (.key (opened member left)))
    (unnamed : Piece.text? member.name = none) :
    (form.readMembersWithin (fuel + 1) isFirst met record cs).toOption = none := by
  have reads := readString_closed member.name (member.gap.chars ++ ':' ::
    (member.element.before.chars ++ (member.element.text ++ left)))
  rw [unnamed] at reads
  obtain ⟨failure, failed⟩ := eq_error_of_toOption reads
  unfold readMembersWithin
  simp only [next, opened, failed]
  rfl

variable {key : String}

/-- A member that no field is named like is skipped. -/
theorem readMembersWithin_unknown (next : nextMember isFirst cs = .ok (.key (opened member left)))
    (named : Piece.text? member.name = some key)
    (unknown : form.fields.find? (fun field => field.key = key) = none)
    (spells : Spells member.element.value member.element.text) (delimits : Delimits left)
    (enough : member.element.text.length ≤ fuel) :
    form.readMembersWithin (fuel + 1) isFirst met record cs =
      form.readMembersWithin fuel false met record left := by
  have reads := readString_closed member.name (member.gap.chars ++ ':' ::
    (member.element.before.chars ++ (member.element.text ++ left)))
  rw [named] at reads
  have skipped := skipped_of_spells spells fuel member.element.before left enough delimits
  rw [readMembersWithin]
  simp only [next, opened, eq_ok_of_toOption reads, unknown, readColon_gap, skipped]

/-- A member that a field is named like is read by it once; a second one is refused. -/
theorem readMembersWithin_known {field : RecordField ρ} {meaning : Option (ρ → ρ)}
    (next : nextMember isFirst cs = .ok (.key (opened member left)))
    (named : Piece.text? member.name = some key)
    (known : form.fields.find? (fun field => field.key = key) = some field)
    (understood : Understands field.read member.element.value meaning)
    (spells : Spells member.element.value member.element.text) (delimits : Delimits left) :
    (form.readMembersWithin (fuel + 1) isFirst met record cs).toOption =
      if key ∈ met then none
      else meaning.bind fun set =>
        (form.readMembersWithin fuel false (key :: met) (set record) left).toOption := by
  have reads := readString_closed member.name (member.gap.chars ++ ':' ::
    (member.element.before.chars ++ (member.element.text ++ left)))
  rw [named] at reads
  have value := understood member.element.text spells member.element.before left delimits
  rw [readMembersWithin]
  simp only [next, opened, eq_ok_of_toOption reads, known]
  split
  · rfl
  · simp only [readColon_gap]
    cases meaning with
    | none =>
      obtain ⟨failure, failed⟩ := eq_error_of_toOption value
      simp only [failed]
      rfl
    | some set =>
      simp only [eq_ok_of_toOption value]
      rfl

/-- A member is read as the schema absorbs it, if what stands behind it is. -/
theorem readMembersWithin_next (follows : form.Follows schema)
    (next : nextMember isFirst cs = .ok (.key (opened member left)))
    (spells : Spells member.element.value member.element.text) (delimits : Delimits left)
    (enough : member.element.text.length ≤ fuel)
    (plain : ∀ slot ∈ schema.slots, member.meant.1 = some slot.key → slot.kind.isRecord = true →
      member.meant.2.isArray = false)
    (later : ∀ met record, (form.readMembersWithin fuel false met record left).toOption =
      (schema.absorb met record members).map fun made => (made, rest)) :
    (form.readMembersWithin (fuel + 1) isFirst met record cs).toOption =
      (schema.absorb met record (member.meant :: members)).map fun made => (made, rest) := by
  have meant : member.meant = (Piece.text? member.name, member.element.value) := rfl
  -- Reader and schema look the key up in matching lists, so they treat it alike.
  cases named : Piece.text? member.name with
  | none =>
    rw [readMembersWithin_unnamed next named, meant, named]
    rfl
  | some key =>
    rw [meant, named] at plain ⊢
    rcases find_of_matches follows.fields key with ⟨unknown, unknown_slot⟩ |
      ⟨field, slot, known, known_slot, same, understood⟩
    · rw [readMembersWithin_unknown next named unknown spells delimits enough, later,
        Schema.absorb_unknown unknown_slot]
    · obtain ⟨slot_mem, slot_key⟩ := Schema.mem_and_key_of_known known_slot
      have understood := understood member.element.value
        (plain slot slot_mem (congrArg some slot_key.symm))
      rw [readMembersWithin_known next named known understood spells delimits,
        Schema.absorb_known known_slot]
      split
      · rfl
      · cases slot.means member.element.value with
        | none => rfl
        | some a => exact later _ _

/-- Induction on the members that are left: each takes one step of the reader, and leaves enough
steps to pass over any value among the others. -/
theorem readMembersWithin_others (follows : form.Follows schema) (others : List Member)
    (spelled : ∀ member ∈ others, Spells member.element.value member.element.text)
    (plain : ∀ slot ∈ schema.slots, ∀ value ∈ under slot.key (others.map Member.meant),
      slot.kind.isRecord = true → value.isArray = false)
    (enough : (behindCommas Member.chars others).length < fuel) (after : Blanks)
    (rest : List Char) :
    (form.readMembersWithin fuel false met record
        (after.chars ++ (behindCommas Member.chars others ++ '}' :: rest))).toOption =
      (schema.absorb met record (others.map Member.meant)).map fun made => (made, rest) := by
  induction others generalizing fuel after met record with
  | nil =>
    obtain ⟨fuel, rfl⟩ := Nat.exists_eq_add_one_of_ne_zero (Nat.ne_zero_of_lt enough)
    have closed : form.readMembersWithin (fuel + 1) false met record (after.chars ++ '}' :: rest) =
        .ok (record, rest) := readMembersWithin_closed after
    exact congrArg Except.toOption closed
  | cons member others ih =>
    obtain ⟨fuel, rfl⟩ := Nat.exists_eq_add_one_of_ne_zero (Nat.ne_zero_of_lt enough)
    have more : behindCommas Member.chars (member :: others) ++ '}' :: rest =
        ',' :: (member.chars ++ (behindCommas Member.chars others ++ '}' :: rest)) := by
      simp [behindCommas]
    simp only [Member.chars, Element.chars, behindCommas, List.flatMap_cons, List.length_append,
      List.length_cons] at enough
    rw [more, List.map_cons]
    refine readMembersWithin_next follows (nextMember_later member after _)
      (spelled member List.mem_cons_self) ?_ (by omega) ?_ ?_
    · exact delimits_blanks _ (delimits_behindCommas _ _ (delimits_brace rest))
    · intro slot slot_mem named
      exact plain slot slot_mem _ (mem_under_cons named)
    · intro met record
      refine ih (fun other inside => spelled other (List.mem_cons_of_mem _ inside)) ?_ ?_ _
      · intro slot slot_mem value inside
        exact plain slot slot_mem value (mem_under_cons_of_mem inside)
      · simp only [Member.chars, Element.chars, behindCommas]
        omega

end

/-- An object is understood as the schema takes up its members. -/
theorem understands_object {form : RecordForm ρ} {schema : Schema ρ} (follows : form.Follows schema)
    (members : List (Option String × Value))
    (plain : ∀ slot ∈ schema.slots, ∀ value ∈ under slot.key members,
      slot.kind.isRecord = true → value.isArray = false) :
    Understands form.read (.object members) (schema.ofMembers? members) := by
  intro text spells before rest _
  unfold read Schema.ofMembers?
  rw [skipBlanks_spelled spells, follows.standard]
  cases spells with
  | emptyObject inside =>
    simp only [List.cons_append, if_pos, List.append_assoc, List.nil_append]
    show (form.readMembersWithin (_ + 1) true [] schema.standard _).toOption = _
    rw [readMembersWithin_closed]
    rfl
  | object first others spelled =>
    simp only [List.cons_append, if_pos, List.append_assoc, List.nil_append]
    refine readMembersWithin_next follows (nextMember_first first _)
      (spelled first List.mem_cons_self) ?_ ?_ ?_ ?_
    · exact delimits_blanks _ (delimits_behindCommas _ _ (delimits_brace rest))
    · simp only [Member.chars, Element.chars, List.length_append, List.length_cons]
      omega
    · intro slot slot_mem named
      exact plain slot slot_mem _ (mem_under_cons named)
    · intro met record
      refine readMembersWithin_others follows others
        (fun other inside => spelled other (List.mem_cons_of_mem _ inside)) ?_ ?_ _ _
      · intro slot slot_mem value inside
        exact plain slot slot_mem value (mem_under_cons_of_mem inside)
      · simp only [List.length_append, List.length_cons]
        omega

/-- A section is understood as its schema does, whatever it is, unless it is an array. -/
theorem understands_value {form : RecordForm ρ} {schema : Schema ρ} (follows : form.Follows schema)
    (flat : ∀ slot ∈ schema.slots, slot.kind.isRecord = false) {value : Value}
    (no_array : value.isArray = false) : Understands form.read value (schema.ofValue? value) := by
  cases value with
  | object members =>
    refine understands_object follows members fun slot slot_mem _ _ record => ?_
    rw [flat slot slot_mem] at record
    cases record
  | array => cases no_array
  | null | boolean | number | string =>
    intro text spells before rest _
    unfold read
    rw [skipBlanks_spelled spells]
    obtain ⟨c, more, rfl, begins⟩ := beginsWith_of_spells spells
    have no_brace : c ≠ '{' := begins.ne (by grind [Value.opening?]) (by decide)
    have no_bracket : c ≠ '[' := begins.ne (by grind [Value.opening?]) (by decide)
    simp only [List.cons_append, if_neg no_brace, if_neg no_bracket, toOption_failKind]
    rfl

end RecordForm

/-- A whole text is understood as its value is. -/
theorem readWhole_document {α : Type} {read : Reader α} {value : Value} {meaning : Option α}
    (understood : Understands read value meaning) {chars : List Char}
    (document : IsDocument value chars) : (readWhole read chars).toOption = meaning := by
  obtain ⟨element, rfl, rfl, spells⟩ := document
  have delimits : Delimits (element.after.chars ++ []) := delimits_blanks _ trivial
  have reads := understood element.text spells element.before _ delimits
  have blank : skipBlanks element.after.chars = [] := by
    have blanks := skipBlanks_append element.after []
    rwa [List.append_nil] at blanks
  rw [List.append_nil] at reads
  unfold readWhole Element.chars
  cases meaning with
  | none =>
    obtain ⟨failure, failed⟩ := eq_error_of_toOption reads
    rw [failed]
    rfl
  | some a =>
    rw [eq_ok_of_toOption reads]
    simp only [blank]
    rfl

end BoardDiagnostics.Json
