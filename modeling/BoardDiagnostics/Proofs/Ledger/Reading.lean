import BoardDiagnostics.Proofs.Ledger.Bounds

/-!
# Reading and writing pushes

Reading goes on as long as pushes follow one another.  `BeginsNoPush` lists what else can be left of
a script, with the reason that is given for it: an opcode that pushes nothing, a missing count, and
a count that reaches beyond the script.  A script is refused exactly if one of these stands behind
some pushes (`pushes_eq_error_iff`).  What is written is read back exactly if every octet string
has between one and 255 octets (`pushes_flatMap_push_eq_iff`).  The main statement,
`pushes_read_exactly_as_written`, puts these together.
-/

set_option autoImplicit false

namespace BoardDiagnostics.Ledger

/-- The reason for refusing a count that reaches beyond the script. -/
def overrun (count : Nat) : Reasons := .of ("push of " ++ toString count ++ " bytes overruns script")

/-- What is left of a script does not begin with a push, for a reason. -/
inductive BeginsNoPush : Octets → Reasons → Prop where
  | opcode {op : UInt8} (tail : Octets) (other : op = 0 ∨ 0x4c < op) :
      BeginsNoPush (op :: tail)
        (.of ("unexpected opcode " ++ Text.hexOctet op ++ " in signature script"))
  | count : BeginsNoPush [0x4c] (.of "truncated OP_PUSHDATA1")
  | short {op : UInt8} {tail : Octets} (low : 1 ≤ op) (high : op ≤ 0x4b)
      (beyond : tail.length < op.toNat) : BeginsNoPush (op :: tail) (overrun op.toNat)
  | long {count : UInt8} {tail : Octets} (beyond : tail.length < count.toNat) :
      BeginsNoPush (0x4c :: count :: tail) (overrun count.toNat)

/-! ## Refusals -/

/-- Every other opcode is refused by its octet. -/
theorem takeCount_other {op : UInt8} (tail : Octets) (other : op = 0 ∨ 0x4c < op) :
    takeCount op tail =
      .error (.of ("unexpected opcode " ++ Text.hexOctet op ++ " in signature script")) := by
  have no_short : ¬ (1 ≤ op ∧ op < Op.pushLong) := by
    rintro ⟨low, high⟩
    rcases other with rfl | large
    · exact absurd low (by decide)
    · exact UInt8.lt_asymm large high
  have no_long : op ≠ Op.pushLong := by
    rintro rfl
    rcases other with zero | large
    · cases zero
    · exact UInt8.lt_irrefl _ large
  unfold takeCount
  rw [if_neg no_short, if_neg no_long]

/-- A refused opcode begins no push. -/
theorem beginsNoPush_of_refused {op : UInt8} {tail : Octets} {reasons : Reasons}
    (refused : takeCount op tail = .error reasons) : BeginsNoPush (op :: tail) reasons := by
  unfold takeCount at refused
  split at refused
  case isTrue => cases refused
  case isFalse no_short =>
    split at refused
    case isTrue long =>
      subst long
      cases tail with
      | nil =>
        cases refused
        exact .count
      | cons b tail => cases refused
    case isFalse no_long =>
      cases refused
      refine .opcode tail ?_
      have limit : Op.pushLong.toNat = 76 := rfl
      have apart : op.toNat ≠ 76 := fun same => no_long (UInt8.toNat_inj.mp same)
      have outside : ¬ (1 ≤ op.toNat ∧ op.toNat < 76) := no_short
      rcases Nat.eq_zero_or_pos op.toNat with zero | positive
      · exact .inl (UInt8.toNat_inj.mp zero)
      · right
        show 76 < op.toNat
        omega

/-- A count that the rest of the script cannot serve does not begin a push. -/
theorem beginsNoPush_of_takeCount {op : UInt8} {tail : Octets} {count : Nat} {rest : Octets}
    (counted : takeCount op tail = .ok (count, rest)) (beyond : rest.length < count) :
    BeginsNoPush (op :: tail) (overrun count) := by
  rcases takeCount_cases counted with ⟨low, high, rfl, rfl⟩ | ⟨rfl, b, rfl, rfl⟩
  · exact .short low (Nat.le_of_lt_succ high) beyond
  · exact .long beyond

/-- Octets that begin no push are refused for the same reason. -/
theorem BeginsNoPush.pushes_eq {rest : Octets} {reasons : Reasons}
    (bad : BeginsNoPush rest reasons) : pushes rest = .error reasons := by
  cases bad with
  | opcode tail other => exact pushes_of_refused (takeCount_other tail other)
  | count => exact pushes_of_refused rfl
  | @short op tail low high beyond =>
    have counted := takeCount_short tail low (Nat.lt_succ_of_le high)
    rw [pushes_of_counted counted, if_neg (Nat.not_le.mpr beyond)]
    rfl
  | @long count tail beyond =>
    have counted := takeCount_long count tail
    have read := pushes_of_counted counted
    rw [if_neg (Nat.not_le.mpr beyond)] at read
    exact read

/-- Behind a row of pushes, reading goes on with what is left. -/
theorem ArePushes.pushes_append {contents : List Octets} {front : Octets}
    (row : ArePushes contents front) (rest : Octets) :
    pushes (front ++ rest) = (pushes rest).map (contents ++ ·) := by
  induction row with
  | nil =>
    rw [List.nil_append]
    cases pushes rest <;> rfl
  | @cons content first contents others push _ ih =>
    rw [List.append_assoc, Ledger.pushes_append push, ih]
    cases pushes rest <;> rfl

/-- A refused script is a row of pushes up to octets that begin none. -/
theorem exists_beginsNoPush_of_pushes {script : Octets} {reasons : Reasons}
    (refused : pushes script = .error reasons) :
    ∃ contents front rest, ArePushes contents front ∧ BeginsNoPush rest reasons ∧
      script = front ++ rest := by
  induction script using pushes.induct with
  | case1 =>
    rw [pushes] at refused
    cases refused
  | case2 op tail reasons' uncounted =>
    rw [pushes_of_refused uncounted] at refused
    cases refused
    exact ⟨[], [], _, .nil, beginsNoPush_of_refused uncounted, rfl⟩
  | case3 op tail count rest counted content served reasons' others ih =>
    have enough : count ≤ rest.length := length_take_eq_iff.mp served
    rw [pushes_of_counted counted, if_pos enough, others] at refused
    cases refused
    obtain ⟨contents, front, left, row, bad, split⟩ := ih others
    obtain ⟨first, push, whole⟩ := isPush_of_takeCount counted enough
    refine ⟨content :: contents, first ++ front, left, .cons push row, bad, ?_⟩
    rw [whole, split, List.append_assoc]
  | case4 op tail count rest counted content served more others =>
    have enough : count ≤ rest.length := length_take_eq_iff.mp served
    rw [pushes_of_counted counted, if_pos enough, others] at refused
    cases refused
  | case5 op tail count rest counted content unserved =>
    have beyond : rest.length < count := by
      apply Nat.lt_of_not_le
      intro enough
      exact unserved (length_take_eq_iff.mpr enough)
    rw [pushes_of_counted counted, if_neg (Nat.not_le.mpr beyond)] at refused
    cases refused
    exact ⟨[], [], _, .nil, beginsNoPush_of_takeCount counted beyond, rfl⟩

/-- Reading is refused exactly where something that begins no push stands behind some pushes. -/
theorem pushes_eq_error_iff {script : Octets} {reasons : Reasons} :
    pushes script = .error reasons ↔
      ∃ contents front rest, ArePushes contents front ∧ BeginsNoPush rest reasons ∧
        script = front ++ rest := by
  constructor
  · exact exists_beginsNoPush_of_pushes
  · rintro ⟨contents, front, rest, row, bad, rfl⟩
    rw [row.pushes_append, bad.pushes_eq]
    rfl

/-! ## Reading what was written -/

/-- A push with something behind it begins with a push as it is written only if it is that push,
and then the octet string has a length that can be written. -/
theorem IsPush.eq_push {data front rest rest' : Octets} (first : IsPush data front)
    (same : push data ++ rest = front ++ rest') :
    front = push data ∧ 1 ≤ data.length ∧ data.length ≤ 255 := by
  have limit : Op.pushLong.toNat = 76 := rfl
  cases first with
  | short positive fits =>
    refine ⟨?_, positive, by omega⟩
    unfold push
    rw [if_pos (by omega)]
  | long fits =>
    unfold push at same ⊢
    by_cases less : data.length < Op.pushLong.toNat
    -- The bare count of a short string is no opcode for long pushes.
    · rw [if_pos less, List.cons_append, List.cons_append] at same
      have head := congrArg UInt8.toNat (List.cons.inj same).1
      rw [toNat_ofNat_count fits] at head
      omega
    · rw [if_neg less]
      refine ⟨rfl, ?_, fits⟩
      omega

/-- Contents that are read as they were written have one to 255 octets. -/
theorem lengths_of_arePushes {contents : List Octets}
    (row : ArePushes contents (contents.flatMap push)) :
    ∀ data ∈ contents, 1 ≤ data.length ∧ data.length ≤ 255 := by
  induction contents with
  | nil => nofun
  | cons data contents ih =>
    rw [List.flatMap_cons] at row
    generalize written : push data ++ contents.flatMap push = script at row
    cases row with
    | cons first others =>
      obtain ⟨rfl, lengths⟩ := first.eq_push written
      have behind := List.append_cancel_left written
      rw [← behind] at others
      exact List.forall_mem_cons.mpr ⟨lengths, ih others⟩

/-- What is written is read back exactly if every octet string has a length that can be written. -/
theorem pushes_flatMap_push_eq_iff {contents : List Octets} :
    pushes (contents.flatMap push) = .ok contents ↔
      ∀ data ∈ contents, 1 ≤ data.length ∧ data.length ≤ 255 := by
  constructor
  · intro read
    exact lengths_of_arePushes (arePushes_of_pushes read)
  · intro lengths
    exact pushes_of_arePushes (arePushes_flatMap_push lengths)

/-- What can be relied on when a script is read. -/
structure ReadsExactly (script : Octets) : Prop where
  /-- No access to the script leaves it, and reading has a result. -/
  within_bounds : pushes? script = some (pushes script)
  /-- It accepts exactly the rows of pushes, and gives what they push. -/
  accepts_iff : ∀ contents, pushes script = .ok contents ↔ ArePushes contents script
  /-- It refuses exactly the scripts in which pushes come to an end before the script does. -/
  refuses_iff : ∀ reasons, pushes script = .error reasons ↔
    ∃ contents front rest, ArePushes contents front ∧ BeginsNoPush rest reasons ∧
      script = front ++ rest

/-- Every script is read exactly; what is written is read as it was written just if the octet
strings have between one and 255 octets, be it a list of them or a single one. -/
theorem pushes_read_exactly_as_written :
    (∀ script, ReadsExactly script) ∧
      (∀ contents : List Octets, pushes (contents.flatMap push) = .ok contents ↔
        ∀ data ∈ contents, 1 ≤ data.length ∧ data.length ≤ 255) ∧
      ∀ data : Octets, pushes (push data) = .ok [data] ↔ 1 ≤ data.length ∧ data.length ≤ 255 := by
  refine ⟨fun script => ?_, fun contents => pushes_flatMap_push_eq_iff, fun data => ?_⟩
  · constructor
    case within_bounds => exact pushes?_eq_some script
    case accepts_iff => exact fun contents => pushes_eq_ok_iff
    case refuses_iff => exact fun reasons => pushes_eq_error_iff
  · have single := @pushes_flatMap_push_eq_iff [data]
    rwa [List.flatMap_singleton, List.forall_mem_singleton] at single

end BoardDiagnostics.Ledger
