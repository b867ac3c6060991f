import BoardDiagnostics.Fault
import BoardDiagnostics.Proofs.Text.Quoted

/-!
# A full text tells its fault

A fault is its kind with the values of its fields.  The record in a full text gives both back,
whatever stands in the texts that it quotes, and tells where it ends: the kind is a word without
a blank, each name ends at its colon, each value ends of itself or before a comma or a blank.
-/

set_option autoImplicit false

namespace BoardDiagnostics

open Text

/-! ### Fields -/

/-- The value of a field. -/
inductive FieldValue where
  | number (n : Nat)
  | text (s : String)

namespace FieldValue

/-- How a value stands in a record. -/
def written : FieldValue → String
  | number n => toString n
  | text s => quoted s

/-- A number is written in decimal digits. -/
theorem toList_written_number (n : Nat) : (number n).written.toList = Nat.toDigits 10 n := by
  rw [written, Nat.toString_eq_ofList_toDigits, String.toList_ofList]

/-- A text is written in quotes. -/
theorem toList_written_text (s : String) : (text s).written.toList = quotedChars s.toList :=
  String.toList_ofList

/-- A number that is written is never taken for a text, as a quote is no digit. -/
theorem number_append_ne_text (n : Nat) (s : String) (rest more : List Char) :
    (number n).written.toList ++ rest ≠ (text s).written.toList ++ more := by
  intro same
  obtain ⟨c, cs, digits⟩ := List.exists_cons_of_ne_nil (Nat.toDigits_ne_nil (n := n) (b := 10))
  have member : c ∈ Nat.toDigits 10 n := digits ▸ List.mem_cons_self
  have digit := Nat.isDigit_of_mem_toDigits (by decide) (by decide) member
  rw [toList_written_number, toList_written_text, digits] at same
  rw [(List.cons.inj same).1] at digit
  exact absurd digit (by decide)

/-- A value can be told from what stands behind it, unless that goes on with a digit. -/
theorem written_append_inj {value other : FieldValue} {rest more : List Char}
    (ends : EndsBefore Char.isDigit rest) (stops : EndsBefore Char.isDigit more)
    (same : value.written.toList ++ rest = other.written.toList ++ more) :
    value = other ∧ rest = more := by
  cases value with
  | number m =>
    cases other with
    | number n =>
      rw [toList_written_number, toList_written_number] at same
      obtain ⟨rfl, behind⟩ := decimal_append_inj ends stops same
      exact ⟨rfl, behind⟩
    | text s => exact absurd same (number_append_ne_text m s rest more)
  | text s =>
    cases other with
    | number n => exact absurd same.symm (number_append_ne_text n s more rest)
    | text t =>
      rw [toList_written_text, toList_written_text] at same
      obtain ⟨texts, behind⟩ := selfDelimiting_quotedChars same
      exact ⟨congrArg text (String.toList_inj.mp texts), behind⟩

end FieldValue

/-- A field of a record: its name and its value. -/
abbrev NamedValue := String × FieldValue

namespace NamedValue

/-- How a field stands in a record. -/
def entry (field : NamedValue) : String := field.1 ++ ": " ++ field.2.written

/-- What stands in a record from a comma on: some fields and the end of the record. -/
def tail : List NamedValue → List Char
  | [] => [' ', '\x7d']
  | field :: later => ',' :: ' ' :: (field.entry.toList ++ tail later)

/-- Behind a field stands no digit that could go on with it. -/
theorem tail_endsBefore_digit (fields : List NamedValue) (rest : List Char) :
    EndsBefore Char.isDigit (tail fields ++ rest) := by
  intro c starts
  cases fields with
  | nil =>
    obtain rfl := Option.some.inj starts
    rfl
  | cons field later =>
    obtain rfl := Option.some.inj starts
    rfl

/-- The name of a field ends at the colon behind it. -/
theorem entry_append_inj {field other : NamedValue} (named : ':' ∉ field.1.toList)
    (called : ':' ∉ other.1.toList) {rest more : List Char}
    (ends : EndsBefore Char.isDigit rest) (stops : EndsBefore Char.isDigit more)
    (same : field.entry.toList ++ rest = other.entry.toList ++ more) :
    field = other ∧ rest = more := by
  have spread : ∀ field : NamedValue, ∀ rest, field.entry.toList ++ rest =
      field.1.toList ++ ':' :: (' ' :: (field.2.written.toList ++ rest)) := by
    intro field rest
    simp [entry, String.toList_append]
  rw [spread, spread] at same
  obtain ⟨names, later⟩ := stop_append_inj named called same
  obtain ⟨values, behind⟩ := FieldValue.written_append_inj ends stops (List.cons.inj later).2
  exact ⟨Prod.ext (String.toList_inj.mp names) values, behind⟩

/-- The fields of a record and its end can be told from what stands behind it. -/
theorem tail_append_inj {fields others : List NamedValue}
    (named : ∀ field ∈ fields, ':' ∉ field.1.toList)
    (called : ∀ field ∈ others, ':' ∉ field.1.toList) {rest more : List Char}
    (same : tail fields ++ rest = tail others ++ more) : fields = others ∧ rest = more := by
  induction fields generalizing others with
  | nil =>
    cases others with
    | nil => exact ⟨rfl, List.append_cancel_left same⟩
    | cons other others => exact absurd (List.cons.inj same).1 (by decide)
  | cons field fields ih =>
    cases others with
    | nil => exact absurd (List.cons.inj same).1 (by decide)
    | cons other others =>
      simp only [tail, List.cons_append, List.append_assoc, List.cons.injEq, true_and] at same
      -- What stands behind a value begins with a comma or a blank, so a number ends there.
      obtain ⟨rfl, later⟩ := entry_append_inj (named field List.mem_cons_self)
        (called other List.mem_cons_self) (tail_endsBefore_digit fields rest)
        (tail_endsBefore_digit others more) same
      obtain ⟨rfl, behind⟩ := ih (fun field member => named field (List.mem_cons_of_mem _ member))
        (fun field member => called field (List.mem_cons_of_mem _ member)) later
      exact ⟨rfl, behind⟩

/-- The entries of a record stand in order, with commas between them and a brace behind the last. -/
theorem toList_intercalate_entries (field : NamedValue) (later : List NamedValue) :
    (", ".intercalate ((field :: later).map entry)).toList ++ [' ', '\x7d'] =
      field.entry.toList ++ tail later := by
  induction later generalizing field with
  | nil => simp [tail]
  | cons next later ih =>
    have next_entry := ih next
    rw [List.map_cons, List.map_cons, String.intercalate_cons_cons, ← List.map_cons]
    simp only [tail, String.toList_append, List.append_assoc, next_entry]
    rfl

end NamedValue

/-! ### Faults -/

namespace Fault

/-- The fields of a fault with their values. -/
def values : Fault → List NamedValue
  | clockAdjust mhz reason => [("mhz", .number mhz), ("reason", .text reason)]
  | unsupported feature => [("feature", .text feature)]
  | mediaIo target reason => [("target", .text target), ("reason", .text reason)]
  | cipher reason => [("reason", .text reason)]
  | checkAborted name reason => [("name", .text name), ("reason", .text reason)]
  | signalLost launched received =>
    [("launched", .number launched), ("received", .number received)]
  | deviceMode reason => [("reason", .text reason)]
  | invalidConfig reason => [("reason", .text reason)]
  | stepAborted step reason => [("step", .text step), ("reason", .text reason)]

/-- The fault of some kind whose fields have these values. -/
def ofValues? : String → List NamedValue → Option Fault
  | "ClockAdjust", [(_, .number mhz), (_, .text reason)] => some (.clockAdjust mhz reason)
  | "Unsupported", [(_, .text feature)] => some (.unsupported feature)
  | "MediaIo", [(_, .text target), (_, .text reason)] => some (.mediaIo target reason)
  | "Cipher", [(_, .text reason)] => some (.cipher reason)
  | "CheckAborted", [(_, .text name), (_, .text reason)] => some (.checkAborted name reason)
  | "SignalLost", [(_, .number launched), (_, .number received)] =>
    some (.signalLost launched received)
  | "DeviceMode", [(_, .text reason)] => some (.deviceMode reason)
  | "InvalidConfig", [(_, .text reason)] => some (.invalidConfig reason)
  | "StepAborted", [(_, .text step), (_, .text reason)] => some (.stepAborted step reason)
  | _, _ => none

/-- A fault is got back from its kind and its values. -/
theorem ofValues?_kind_values (fault : Fault) :
    ofValues? fault.kind fault.values = some fault := by
  cases fault <;> rfl

/-- Faults of one kind and with the same values are equal. -/
theorem eq_of_kind_of_values {fault other : Fault} (kinds : fault.kind = other.kind)
    (values : fault.values = other.values) : fault = other := by
  apply Option.some.inj
  rw [← ofValues?_kind_values fault, kinds, values, ofValues?_kind_values]

/-- The fields of a fault are its values, written. -/
theorem fields_eq_map_values (fault : Fault) :
    fault.fields = fault.values.map fun field => (field.1, field.2.written) := by
  cases fault <;> rfl

/-- Every fault has a value. -/
theorem values_ne_nil (fault : Fault) : fault.values ≠ [] := by
  cases fault <;> exact List.cons_ne_nil _ _

/-- There is no blank in the name of a kind. -/
theorem blank_notMem_kind (fault : Fault) : ' ' ∉ fault.kind.toList := by
  cases fault <;> simp [kind]

/-- There is no colon in the name of a value. -/
theorem colon_notMem_of_mem_values (fault : Fault) :
    ∀ field ∈ fault.values, ':' ∉ field.1.toList := by
  cases fault <;> simp [values]

/-- A record is the kind of its fault, a first entry, and the tail of the others. -/
theorem toList_record (fault : Fault) : ∃ field later, fault.values = field :: later ∧
    fault.record.toList = fault.kind.toList ++
      ' ' :: '\x7b' :: ' ' :: (field.entry.toList ++ NamedValue.tail later) := by
  obtain ⟨field, later, values⟩ := List.exists_cons_of_ne_nil fault.values_ne_nil
  refine ⟨field, later, values, ?_⟩
  have entries : fault.fields.map (fun field => field.1 ++ ": " ++ field.2) =
      (field :: later).map NamedValue.entry := by
    rw [fields_eq_map_values, values, List.map_map]
    rfl
  rw [← NamedValue.toList_intercalate_entries, record, entries]
  simp [String.toList_append]

/-- A record tells its fault and its own end: nothing in a text that it quotes can pass for
another field, another fault or the end of the record. -/
theorem selfDelimiting_record : SelfDelimiting fun fault : Fault => fault.record.toList := by
  intro fault other rest more same
  obtain ⟨field, later, values, record⟩ := toList_record fault
  obtain ⟨first, others, other_values, other_record⟩ := toList_record other
  simp only [record, other_record, List.append_assoc, List.cons_append] at same
  obtain ⟨kinds, inside⟩ := stop_append_inj fault.blank_notMem_kind other.blank_notMem_kind same
  have named := fault.colon_notMem_of_mem_values
  have called := other.colon_notMem_of_mem_values
  rw [values] at named
  rw [other_values] at called
  -- With a comma in front of it, the first field stands as the later ones do.
  have fields : NamedValue.tail (field :: later) ++ rest =
      NamedValue.tail (first :: others) ++ more := by
    simp only [NamedValue.tail, List.cons_append, List.append_assoc]
    rw [(List.cons.inj (List.cons.inj inside).2).2]
  obtain ⟨fields, behind⟩ := NamedValue.tail_append_inj named called fields
  refine ⟨eq_of_kind_of_values (String.toList_inj.mp kinds) ?_, behind⟩
  rw [values, other_values, fields]

/-- A record is told from whatever stands behind it: it determines its fault and the rest. -/
theorem record_append_inj {fault other : Fault} {rest more : String}
    (same : fault.record ++ rest = other.record ++ more) : fault = other ∧ rest = more := by
  have lists := congrArg String.toList same
  rw [String.toList_append, String.toList_append] at lists
  obtain ⟨faults, behind⟩ := selfDelimiting_record lists
  exact ⟨faults, String.toList_inj.mp behind⟩

/-- The record stands in front of all else that a full text tells. -/
theorem fullText_eq (fault : Fault) : fault.fullText = "HarnessError::" ++ (fault.record ++
    (" (code " ++ toString fault.code ++ "): " ++ fault.message)) := by
  unfold fullText
  simp only [String.append_assoc]

/-- A full text tells its fault. -/
theorem fullText_injective : Function.Injective fullText := by
  intro fault other same
  rw [fullText_eq fault, fullText_eq other, String.append_right_inj] at same
  exact (record_append_inj same).1

end Fault

end BoardDiagnostics
