import BoardDiagnostics.Text.Hidden

/-!
# Quoted text

A text in double quotes, written so that nothing in it can end the quotation early or vanish
on a console.  The quote, the backslash and the four named controls have short escapes, every
other hidden character is spelt `\u` with its number in braces, and all else stands as it is.
-/

set_option autoImplicit false

namespace BoardDiagnostics.Text

/-- How one character is written inside double quotes. -/
def spell (c : Char) : List Char :=
  if c = '"' then ['\\', '"']
  else if c = '\\' then ['\\', '\\']
  else if c = '\n' then ['\\', 'n']
  else if c = '\r' then ['\\', 'r']
  else if c = '\t' then ['\\', 't']
  else if c = '\x00' then ['\\', '0']
  else if isHidden c then ['\\', 'u', '\x7b'] ++ Nat.toDigits 16 c.toNat ++ ['\x7d']
  else [c]

/-- The characters of a quoted text. -/
def quotedChars (cs : List Char) : List Char :=
  '"' :: (cs.flatMap spell ++ ['"'])

/-- A text in double quotes. -/
def quoted (s : String) : String :=
  String.ofList (quotedChars s.toList)

/-- A bracketed list of quoted texts. -/
def quotedList (texts : List String) : String :=
  "[" ++ ", ".intercalate (texts.map quoted) ++ "]"

end BoardDiagnostics.Text
