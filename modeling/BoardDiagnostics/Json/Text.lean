import BoardDiagnostics.Json.Failure
import BoardDiagnostics.Text.Hex

/-!
# JSON strings

Reading the characters of a string behind its opening quote, and passing over a string without
looking at what it says.  An escape by number is one UTF-16 unit; two of them make a character
beyond the first plane, and half of such a pair is refused in a string that is read.
-/

set_option autoImplicit false

namespace BoardDiagnostics.Json

/-- The character that a short escape stands for, given the letter behind the backslash. -/
def shortEscape? (c : Char) : Option Char :=
  if c = '"' then some '"'
  else if c = '\\' then some '\\'
  else if c = '/' then some '/'
  else if c = 'b' then some '\x08'
  else if c = 'f' then some '\x0c'
  else if c = 'n' then some '\n'
  else if c = 'r' then some '\r'
  else if c = 't' then some '\t'
  else none

/-- The unit that four hexadecimal digits stand for. -/
def unitOfDigits? (a b c d : Char) : Option Nat := do
  let a ← Text.hexDigit? a
  let b ← Text.hexDigit? b
  let c ← Text.hexDigit? c
  let d ← Text.hexDigit? d
  some (((a * 16 + b) * 16 + c) * 16 + d)

/-- Read the four digits of an escape by number.  Four octets are taken whatever they are; with
fewer left, the text has ended. -/
def readUnit (cs : List Char) : Step Nat :=
  if octetCount (cs.take 4) < 4 then failHere .endInString []
  else
    match cs with
    | a :: b :: c :: d :: rest =>
      match unitOfDigits? a b c d with
      | some unit => .ok (unit, rest)
      | none => .error ⟨.invalidEscape, cs, 4⟩
    | _ => .error ⟨.invalidEscape, cs, 4⟩

/-- A unit is the first of a pair. -/
def isLeading (unit : Nat) : Bool := 0xd800 ≤ unit && unit ≤ 0xdbff

/-- A unit is the second of a pair. -/
def isTrailing (unit : Nat) : Bool := 0xdc00 ≤ unit && unit ≤ 0xdfff

/-- The character that a pair of units stands for. -/
def charOfPair (leading trailing : Nat) : Char :=
  Char.ofNat ((leading - 0xd800) * 0x400 + (trailing - 0xdc00) + 0x10000)

/-- Read the second unit of a pair, the first of which has been read. -/
def readTrailing (leading : Nat) (cs : List Char) : Step Char :=
  match cs with
  | [] => failHere .endInString []
  | a :: rest =>
    if a = '\\' then
      match rest with
      | [] => failHere .endInString []
      | b :: rest =>
        if b = 'u' then
          match readUnit rest with
          | .error failure => .error failure
          | .ok (unit, rest) =>
            if isTrailing unit then .ok (charOfPair leading unit, rest)
            else failHere .loneSurrogate rest
        else failNext .endOfEscape (b :: rest)
    else failNext .endOfEscape (a :: rest)

/-- Read an escape behind its backslash. -/
def readEscape (cs : List Char) : Step Char :=
  match cs with
  | [] => failHere .endInString []
  | c :: rest =>
    if c = 'u' then
      match readUnit rest with
      | .error failure => .error failure
      | .ok (unit, rest) =>
        if isTrailing unit then failHere .loneSurrogate rest
        else if isLeading unit then readTrailing unit rest
        else .ok (Char.ofNat unit, rest)
    else
      match shortEscape? c with
      | some meant => .ok (meant, rest)
      | none => failNext .invalidEscape (c :: rest)

/-- Pass over an escape behind its backslash. -/
def skipEscape (cs : List Char) : Except Failure (List Char) :=
  match cs with
  | [] => failHere .endInString []
  | c :: rest =>
    if c = 'u' then
      match readUnit rest with
      | .error failure => .error failure
      | .ok (_, rest) => .ok rest
    else
      match shortEscape? c with
      | some _ => .ok rest
      | none => failNext .invalidEscape (c :: rest)

/-- A character that must not stand in a string as it is. -/
def isControl (c : Char) : Bool := c.toNat < 0x20

/-- An escape by number leaves less text than it began with. -/
theorem length_readUnit {cs : List Char} {unit : Nat} {rest : List Char}
    (h : readUnit cs = .ok (unit, rest)) : rest.length < cs.length := by
  unfold readUnit at h
  split at h
  · cases h
  · split at h
    · split at h
      · cases h; simp only [List.length_cons]; omega
      · cases h
    · cases h

/-- The second unit of a pair leaves less text than it began with. -/
theorem length_readTrailing {leading : Nat} {cs : List Char} {c : Char} {rest : List Char}
    (h : readTrailing leading cs = .ok (c, rest)) : rest.length < cs.length := by
  unfold readTrailing at h
  split at h
  · cases h
  · split at h
    · split at h
      · cases h
      · split at h
        · split at h
          · cases h
          · next read =>
            have shorter := length_readUnit read
            split at h
            · injection h with h
              injection h with _ h
              subst h
              simp only [List.length_cons]; omega
            · cases h
        · cases h
    · cases h

/-- An escape leaves less text than it began with. -/
theorem length_readEscape {cs : List Char} {c : Char} {rest : List Char}
    (h : readEscape cs = .ok (c, rest)) : rest.length < cs.length := by
  unfold readEscape at h
  split at h
  · cases h
  · split at h
    · split at h
      · cases h
      · next read =>
        have shorter := length_readUnit read
        split at h
        · cases h
        · split at h
          · have := length_readTrailing h
            simp only [List.length_cons]; omega
          · injection h with h
            injection h with _ h
            subst h
            simp only [List.length_cons]; omega
    · split at h
      · injection h with h
        injection h with _ h
        subst h
        simp
      · cases h

/-- An escape that is passed over leaves less text than it began with. -/
theorem length_skipEscape {cs rest : List Char} (h : skipEscape cs = .ok rest) :
    rest.length < cs.length := by
  unfold skipEscape at h
  split at h
  · cases h
  · split at h
    · split at h
      · cases h
      · next read =>
        have shorter := length_readUnit read
        cases h; simp only [List.length_cons]; omega
    · split at h
      · cases h; simp
      · cases h

/-- Read the characters of a string behind its opening quote, through its closing quote. -/
def readChars (cs : List Char) : Step (List Char) :=
  match cs with
  | [] => failHere .endInString []
  | c :: rest =>
    if c = '"' then .ok ([], rest)
    else if c = '\\' then
      match _escape : readEscape rest with
      | .error failure => .error failure
      | .ok (meant, rest) =>
        match readChars rest with
        | .error failure => .error failure
        | .ok (more, rest) => .ok (meant :: more, rest)
    else if isControl c then failNext .controlInString (c :: rest)
    else
      match readChars rest with
      | .error failure => .error failure
      | .ok (more, rest) => .ok (c :: more, rest)
termination_by cs.length
decreasing_by
  · have := length_readEscape _escape
    simp only [List.length_cons]; omega
  · simp

/-- Read a string behind its opening quote. -/
def readString (cs : List Char) : Step String :=
  match readChars cs with
  | .error failure => .error failure
  | .ok (chars, rest) => .ok (String.ofList chars, rest)

/-- Pass over a string behind its opening quote. -/
def skipString (cs : List Char) : Except Failure (List Char) :=
  match cs with
  | [] => failHere .endInString []
  | c :: rest =>
    if c = '"' then .ok rest
    else if c = '\\' then
      match _escape : skipEscape rest with
      | .error failure => .error failure
      | .ok rest => skipString rest
    else if isControl c then failHere .controlInString (c :: rest)
    else skipString rest
termination_by cs.length
decreasing_by
  · have := length_skipEscape _escape
    simp only [List.length_cons]; omega
  · simp

end BoardDiagnostics.Json
