import BoardDiagnostics.Proofs.Json.Records

/-!
# Slots for the kinds of values

One slot for each kind, and the field that matches it.
-/

set_option autoImplicit false

namespace BoardDiagnostics.Json

variable {ρ : Type}

/-! ### Meanings and kinds -/

namespace Value

/-- A value is a truth exactly if it is of that kind. -/
theorem truth?_isSome_iff {value : Value} : value.truth?.isSome = true ↔ Fits .truth value := by
  constructor
  · intro meant
    cases value with
    | boolean b => exact .truth b
    | null | number | string | array | object => cases meant
  · rintro ⟨b⟩
    rfl

/-- A value is a natural number of so many bits exactly if it is a literal of one. -/
theorem natural?_eq_some_iff {bits n : Nat} {value : Value} :
    value.natural? bits = some n ↔
      ∃ literal, value = .number literal ∧ literal.natural? = some n ∧ n < 1 <<< bits := by
  constructor
  · intro meant
    cases value with
    | number literal =>
      obtain ⟨written, fits⟩ := Option.filter_eq_some_iff.mp meant
      exact ⟨literal, rfl, written, of_decide_eq_true fits⟩
    | null | boolean | string | array | object => cases meant
  · rintro ⟨literal, rfl, written, fits⟩
    exact Option.filter_eq_some_iff.mpr ⟨written, decide_eq_true fits⟩

/-- A value means such a number exactly if it is of that kind. -/
theorem natural?_isSome_iff {bits : Nat} {value : Value} :
    (value.natural? bits).isSome = true ↔ Fits (.natural bits) value := by
  rw [Option.isSome_iff_exists]
  constructor
  · rintro ⟨n, meant⟩
    obtain ⟨literal, rfl, written, fits⟩ := natural?_eq_some_iff.mp meant
    exact .natural written fits
  · intro fits
    cases fits with
    | @natural _ n literal written small =>
      exact ⟨n, natural?_eq_some_iff.mpr ⟨literal, rfl, written, small⟩⟩

/-- A value means an optional number exactly if it is of that kind. -/
theorem optional?_isSome_iff {bits : Nat} {value : Value} :
    (value.optional? (natural? bits)).isSome = true ↔ Fits (.optional bits) value := by
  by_cases null : value = .null
  · subst null
    exact ⟨fun _ => .null, fun _ => rfl⟩
  · have meant : value.optional? (natural? bits) = (value.natural? bits).map some := by
      cases value with
      | null => exact absurd rfl null
      | boolean | number | string | array | object => rfl
    rw [meant, Option.isSome_map, natural?_isSome_iff]
    constructor
    · intro fits
      exact .optional fits
    · intro fits
      cases fits with
      | null => exact absurd rfl null
      | optional fits => exact fits

/-- The meanings of a list of strings are the strings. -/
theorem mapM_text?_eq_some_iff {values : List Value} {texts : List String} :
    values.mapM text? = some texts ↔ values = texts.map fun text => .string (some text) := by
  induction values generalizing texts with
  | nil =>
    cases texts with
    | nil => exact ⟨fun _ => rfl, fun _ => rfl⟩
    | cons => exact ⟨nofun, nofun⟩
  | cons value values ih =>
    constructor
    · intro meant
      rw [List.mapM_cons] at meant
      obtain ⟨text, own, meant⟩ := Option.bind_eq_some_iff.mp meant
      obtain ⟨others, rest, meant⟩ := Option.bind_eq_some_iff.mp meant
      cases meant
      rw [List.map_cons, ← ih.mp rest]
      cases value with
      | string text =>
        obtain rfl : text = some _ := own
        rfl
      | null | boolean | number | array | object => cases own
    · intro equal
      cases texts with
      | nil => cases equal
      | cons text texts =>
        obtain ⟨rfl, rest⟩ := List.cons.inj equal
        rw [List.mapM_cons, ih.mpr rest]
        rfl

/-- A value means a list of texts exactly if it is of that kind. -/
theorem list?_text?_isSome_iff {value : Value} :
    (value.list? text?).isSome = true ↔ Fits .texts value := by
  rw [Option.isSome_iff_exists]
  constructor
  · rintro ⟨texts, meant⟩
    cases value with
    | array elements =>
      rw [mapM_text?_eq_some_iff.mp meant]
      exact .texts texts
    | null | boolean | number | string | object => cases meant
  · intro fits
    cases fits with
    | texts texts => exact ⟨texts, mapM_text?_eq_some_iff.mpr rfl⟩

end Value

/-! ### Slots -/

/-- A slot of a kind without members. -/
def Slot.flat {Content : Type} (key : String) (kind : Kind) (is_flat : kind.isRecord = false)
    (means : Value → Option Content)
    (fits_iff : ∀ {value : Value}, (means value).isSome = true ↔ Fits kind value)
    (get : ρ → Content) (set : Content → ρ → ρ)
    (get_set : ∀ value a, means value = some a → ∀ record, get (set a record) = a) : Slot ρ where
  key := key
  kind := kind
  means := means
  get := get
  set := set
  fits_iff _ := fits_iff
  congr _ _ alike := by rw [alike.eq_of_flat is_flat]
  get_set := get_set

/-- The slot of a truth. -/
def truthSlot (key : String) (get : ρ → Bool) (set : Bool → ρ → ρ)
    (get_set : ∀ b record, get (set b record) = b) : Slot ρ :=
  .flat key .truth rfl Value.truth? Value.truth?_isSome_iff get set fun _ b _ => get_set b

/-- The slot of a number of so many bits. -/
def naturalSlot (key : String) (bits : Nat) (get : ρ → Nat) (set : Nat → ρ → ρ)
    (get_set : ∀ n, n < 1 <<< bits → ∀ record, get (set n record) = n) : Slot ρ :=
  .flat key (.natural bits) rfl (Value.natural? bits) Value.natural?_isSome_iff get set
    fun _ n meant => by
      obtain ⟨-, -, -, fits⟩ := Value.natural?_eq_some_iff.mp meant
      exact get_set n fits

/-- The slot of a list of texts. -/
def textsSlot (key : String) (get : ρ → List String) (set : List String → ρ → ρ)
    (get_set : ∀ texts record, get (set texts record) = texts) : Slot ρ :=
  .flat key .texts rfl (Value.list? Value.text?) Value.list?_text?_isSome_iff get set
    fun _ texts _ => get_set texts

/-- The slot of a number of so many bits that may be left empty. -/
def optionalSlot (key : String) (bits : Nat) (get : ρ → Option Nat) (set : Option Nat → ρ → ρ)
    (get_set : ∀ n, (∀ m, n = some m → m < 1 <<< bits) → ∀ record, get (set n record) = n) :
    Slot ρ :=
  .flat key (.optional bits) rfl (Value.optional? (Value.natural? bits))
    Value.optional?_isSome_iff get set fun value n meant => by
      refine get_set n ?_
      rintro m rfl
      cases value with
      | null => cases meant
      | boolean | string | array | object => cases meant
      | number literal =>
        obtain ⟨m, meant, equal⟩ := Option.map_eq_some_iff.mp meant
        cases equal
        obtain ⟨-, -, -, fits⟩ := Value.natural?_eq_some_iff.mp meant
        exact fits

/-- A value means a record exactly if it is of the schema's kind. -/
theorem Schema.ofValue?_isSome_iff {schema : Schema ρ} {value : Value} :
    (schema.ofValue? value).isSome = true ↔ Fits schema.kind value := by
  cases value with
  | object members => exact ofMembers?_isSome_iff
  | null | boolean | number | string | array => exact ⟨nofun, nofun⟩

/-- A slot for a record of its own. -/
def sectionSlot {σ : Type} (key : String) (schema : Schema σ) (get : ρ → σ) (set : σ → ρ → ρ)
    (get_set : ∀ inner record, get (set inner record) = inner) : Slot ρ where
  key := key
  kind := schema.kind
  means := schema.ofValue?
  get := get
  set := set
  fits_iff _ := Schema.ofValue?_isSome_iff
  congr _ _ := Schema.ofValue?_congr
  get_set _ inner _ := get_set inner

/-! ### Fields that match them -/

/-- A field read as a truth matches the slot of a truth. -/
theorem matches_truthSlot (key : String) (get : ρ → Bool) (set : Bool → ρ → ρ)
    (get_set : ∀ b record, get (set b record) = b) :
    (RecordField.of key readBool set).Matches (truthSlot key get set get_set) :=
  ⟨rfl, fun value _ => RecordField.understands_of (understands_readBool value) key set⟩

/-- A field read as a number matches the slot of a number of that width. -/
theorem matches_naturalSlot (key : String) {width : Width}
    (narrow : 1 <<< width.bits ≤ greatestNatural + 1) (get : ρ → Nat) (set : Nat → ρ → ρ)
    (get_set : ∀ n, n < 1 <<< width.bits → ∀ record, get (set n record) = n) :
    (RecordField.of key (readNatural width) set).Matches
      (naturalSlot key width.bits get set get_set) :=
  ⟨rfl, fun value _ => RecordField.understands_of (understands_readNatural narrow value) key set⟩

/-- A field read as texts matches the slot of texts. -/
theorem matches_textsSlot (key : String) (get : ρ → List String) (set : List String → ρ → ρ)
    (get_set : ∀ texts record, get (set texts record) = texts) :
    (RecordField.of key (readList readText) set).Matches (textsSlot key get set get_set) :=
  ⟨rfl, fun value _ =>
    RecordField.understands_of (understands_readList understands_readText value) key set⟩

/-- A field read as an optional number matches the slot of one. -/
theorem matches_optionalSlot (key : String) {width : Width}
    (narrow : 1 <<< width.bits ≤ greatestNatural + 1) (get : ρ → Option Nat)
    (set : Option Nat → ρ → ρ)
    (get_set : ∀ n, (∀ m, n = some m → m < 1 <<< width.bits) → ∀ record, get (set n record) = n) :
    (RecordField.of key (readOptional (readNatural width)) set).Matches
      (optionalSlot key width.bits get set get_set) :=
  ⟨rfl, fun value _ => RecordField.understands_of
    (understands_readOptional (understands_readNatural narrow value)) key set⟩

/-- A field read by a form matches the slot of a section, if the form follows its schema. -/
theorem matches_sectionSlot {σ : Type} (key : String) {form : RecordForm σ} {schema : Schema σ}
    (follows : form.Follows schema) (flat : ∀ slot ∈ schema.slots, slot.kind.isRecord = false)
    (get : ρ → σ) (set : σ → ρ → ρ) (get_set : ∀ inner record, get (set inner record) = inner) :
    (RecordField.of key form.read set).Matches (sectionSlot key schema get set get_set) :=
  ⟨rfl, fun _ no_array => RecordField.understands_of
    (RecordForm.understands_value follows flat (no_array rfl)) key set⟩

end BoardDiagnostics.Json
