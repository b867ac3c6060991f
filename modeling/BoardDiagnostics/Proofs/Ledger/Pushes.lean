import BoardDiagnostics.Ledger.Push

/-!
# Rows of pushes

`ArePushes contents script` says that a script consists of the pushes of some octet strings, one
behind the other, with nothing left over.  The main statement, `pushes_eq_ok_iff`, is that reading
accepts exactly these scripts and gives the contents; what is written by `push` is such a script as
long as every count fits into its octet and is not zero (`arePushes_flatMap_push`).
-/

set_option autoImplicit false

namespace BoardDiagnostics.Ledger

/-- The pushes of an octet string: up to 75 octets can stand behind their bare count, up to 255
behind the opcode for long pushes and their count. -/
inductive IsPush (content : Octets) : Octets → Prop where
  | short (positive : 1 ≤ content.length) (fits : content.length ≤ 75) :
      IsPush content (UInt8.ofNat content.length :: content)
  | long (fits : content.length ≤ 255) :
      IsPush content (Op.pushLong :: UInt8.ofNat content.length :: content)

/-- A script consists of the pushes of these octet strings, in order. -/
inductive ArePushes : List Octets → Octets → Prop where
  | nil : ArePushes [] []
  | cons {content front : Octets} {contents : List Octets} {rest : Octets}
      (first : IsPush content front) (others : ArePushes contents rest) :
      ArePushes (content :: contents) (front ++ rest)

/-- A count up to 255 fits an octet. -/
theorem toNat_ofNat_count {count : Nat} (fits : count ≤ 255) : (UInt8.ofNat count).toNat = count := by
  rw [UInt8.toNat_ofNat']
  omega

/-! ## Counts -/

/-- A short opcode is its own count. -/
theorem takeCount_short {op : UInt8} (tail : Octets) (low : 1 ≤ op) (high : op < Op.pushLong) :
    takeCount op tail = .ok (op.toNat, tail) := by
  simp [takeCount, low, high]

/-- Behind the long opcode, the count has an octet of its own. -/
theorem takeCount_long (count : UInt8) (tail : Octets) :
    takeCount Op.pushLong (count :: tail) = .ok (count.toNat, tail) := by
  simp [takeCount]

/-- A count is taken from a short opcode or from the octet behind the long one. -/
theorem takeCount_cases {op : UInt8} {tail : Octets} {count : Nat} {rest : Octets}
    (counted : takeCount op tail = .ok (count, rest)) :
    (1 ≤ op ∧ op < Op.pushLong ∧ count = op.toNat ∧ rest = tail) ∨
      (op = Op.pushLong ∧ ∃ b, tail = b :: rest ∧ count = b.toNat) := by
  unfold takeCount at counted
  split at counted
  case isTrue short =>
    cases counted
    exact .inl ⟨short.1, short.2, rfl, rfl⟩
  case isFalse =>
    split at counted
    case isTrue long =>
      cases tail with
      | nil => cases counted
      | cons b tail =>
        cases counted
        exact .inr ⟨long, b, rfl, rfl⟩
    case isFalse => cases counted

/-- A count that the rest of the script can serve is the beginning of a push. -/
theorem isPush_of_takeCount {op : UInt8} {tail : Octets} {count : Nat} {rest : Octets}
    (counted : takeCount op tail = .ok (count, rest)) (served : count ≤ rest.length) :
    ∃ front, IsPush (rest.take count) front ∧ op :: tail = front ++ rest.drop count := by
  have length : (rest.take count).length = count := List.length_take_of_le served
  rcases takeCount_cases counted with ⟨low, high, rfl, rfl⟩ | ⟨rfl, b, rfl, rfl⟩
  · have positive : 1 ≤ op.toNat := low
    have bounded : op.toNat < 76 := high
    refine ⟨op :: rest.take op.toNat, ?_, by simp⟩
    have push : IsPush (rest.take op.toNat) _ := .short (by omega) (by omega)
    rwa [length, UInt8.ofNat_toNat] at push
  · have bounded : b.toNat < 256 := b.toNat_lt
    refine ⟨Op.pushLong :: b :: rest.take b.toNat, ?_, by simp⟩
    have push : IsPush (rest.take b.toNat) _ := .long (by omega)
    rwa [length, UInt8.ofNat_toNat] at push

/-! ## Reading -/

/-- So many octets can be taken exactly from a script that has them. -/
theorem length_take_eq_iff {rest : Octets} {count : Nat} :
    (rest.take count).length = count ↔ count ≤ rest.length := by
  rw [List.length_take]
  omega

/-- A refused opcode ends the reading of pushes. -/
theorem pushes_of_refused {op : UInt8} {tail : Octets} {reasons : Reasons}
    (refused : takeCount op tail = .error reasons) : pushes (op :: tail) = .error reasons := by
  rw [pushes]
  split
  case h_1 reasons' refused' =>
    rw [refused] at refused'
    cases refused'
    rfl
  case h_2 counted => rw [refused] at counted; cases counted

/-- A push is read if the script has so many octets left, and overruns it otherwise. -/
theorem pushes_of_counted {op : UInt8} {tail : Octets} {count : Nat} {rest : Octets}
    (counted : takeCount op tail = .ok (count, rest)) :
    pushes (op :: tail) =
      if count ≤ rest.length then (pushes (rest.drop count)).map (rest.take count :: ·)
      else .error (.of ("push of " ++ toString count ++ " bytes overruns script")) := by
  rw [pushes]
  split
  case h_1 refused => rw [counted] at refused; cases refused
  case h_2 counted' =>
    rw [counted] at counted'
    cases counted'
    simp only [length_take_eq_iff]
    split
    · cases pushes (rest.drop count) <;> rfl
    · rfl

/-- A push in front is the first one read. -/
theorem pushes_append {content front : Octets} (push : IsPush content front) (rest : Octets) :
    pushes (front ++ rest) = (pushes rest).map (content :: ·) := by
  cases push with
  | short positive fits =>
    have value : (UInt8.ofNat content.length).toNat = content.length :=
      toNat_ofNat_count (by omega)
    have low : 1 ≤ UInt8.ofNat content.length := by
      rw [UInt8.le_iff_toNat_le, value]
      exact positive
    have high : UInt8.ofNat content.length < Op.pushLong := by
      rw [UInt8.lt_iff_toNat_lt, value]
      exact Nat.lt_succ_of_le fits
    have counted := takeCount_short (content ++ rest) low high
    rw [value] at counted
    rw [List.cons_append, pushes_of_counted counted, if_pos (by simp)]
    simp
  | long fits =>
    have counted := takeCount_long (UInt8.ofNat content.length) (content ++ rest)
    rw [toNat_ofNat_count fits] at counted
    rw [List.cons_append, List.cons_append, pushes_of_counted counted, if_pos (by simp)]
    simp

/-- A row of pushes is read as their contents. -/
theorem pushes_of_arePushes {contents : List Octets} {script : Octets}
    (row : ArePushes contents script) : pushes script = .ok contents := by
  induction row with
  | nil => rw [pushes]
  | cons first _ read =>
    rw [pushes_append first, read]
    rfl

/-- By induction on the script, what is read without a refusal is a row of pushes. -/
theorem arePushes_of_pushes {contents : List Octets} {script : Octets}
    (read : pushes script = .ok contents) : ArePushes contents script := by
  induction script using pushes.induct generalizing contents with
  | case1 =>
    rw [pushes] at read
    cases read
    exact .nil
  | case2 op tail reasons refused =>
    rw [pushes_of_refused refused] at read
    cases read
  | case3 op tail count rest counted content served reasons refused =>
    rw [pushes_of_counted counted, refused] at read
    split at read <;> cases read
  | case4 op tail count rest counted content served more read_more =>
    rename_i row
    have enough : count ≤ rest.length := length_take_eq_iff.mp served
    rw [pushes_of_counted counted, if_pos enough, read_more] at read
    cases read
    obtain ⟨front, push, split⟩ := isPush_of_takeCount counted enough
    rw [split]
    exact .cons push (row read_more)
  | case5 op tail count rest counted content =>
    rename_i overrun
    have short : ¬ count ≤ rest.length := by
      intro enough
      exact overrun (length_take_eq_iff.mpr enough)
    rw [pushes_of_counted counted, if_neg short] at read
    cases read

/-- Reading accepts exactly the rows of pushes, and gives what is pushed. -/
theorem pushes_eq_ok_iff {script : Octets} {contents : List Octets} :
    pushes script = .ok contents ↔ ArePushes contents script :=
  ⟨arePushes_of_pushes, pushes_of_arePushes⟩

/-- A script is a row of pushes in one way only. -/
theorem ArePushes.unique {contents other : List Octets} {script : Octets}
    (row : ArePushes contents script) (row' : ArePushes other script) : contents = other := by
  have read := pushes_of_arePushes row
  rw [pushes_of_arePushes row'] at read
  exact (Except.ok.inj read).symm

/-! ## Writing -/

/-- What is written for a content of one to 255 octets is a push of it. -/
theorem isPush_push {data : Octets} (positive : 1 ≤ data.length) (fits : data.length ≤ 255) :
    IsPush data (push data) := by
  have limit : Op.pushLong.toNat = 76 := rfl
  unfold push
  split
  case isTrue short => exact .short positive (by omega)
  case isFalse => exact .long fits

/-- What is written for such contents is a row of pushes of them. -/
theorem arePushes_flatMap_push {contents : List Octets}
    (counts : ∀ data ∈ contents, 1 ≤ data.length ∧ data.length ≤ 255) :
    ArePushes contents (contents.flatMap push) := by
  induction contents with
  | nil => exact .nil
  | cons data rest row =>
    obtain ⟨first, others⟩ := List.forall_mem_cons.mp counts
    rw [List.flatMap_cons]
    exact .cons (isPush_push first.1 first.2) (row others)

end BoardDiagnostics.Ledger
