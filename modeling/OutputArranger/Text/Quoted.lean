import OutputArranger.Unicode.CodeSet

/-!
# Quoted text for people

Strings are shown between quotes, with escapes for what could not be told apart on a screen:
control characters, blanks other than the space, and marks that would join their neighbour.
-/

namespace OutputArranger.Quoted

open Unicode

/-- Whether a character shows by itself. -/
def isShown (c : Char) : Bool :=
  c = ' ' || !(["Cc", "Cf", "Cs", "Co", "Cn", "Zl", "Zp", "Zs"].contains (category c))

/-- Lower-case hexadecimal digits without leading zeros. -/
def hex (n : Nat) : List Char := Nat.toDigits 16 n

/-- The code point between braces. -/
def codeEscape (c : Char) : List Char := ['\\', 'u', '\x7b'] ++ hex c.toNat ++ ['\x7d']

/-- One character between quotes. -/
def escaped (c : Char) : List Char :=
  if c = '\x00' then ['\\', '0']
  else if c = '\t' then ['\\', 't']
  else if c = '\r' then ['\\', 'r']
  else if c = '\n' then ['\\', 'n']
  else if c = '\\' then ['\\', '\\']
  else if c = '"' then ['\\', '"']
  else if insideBounds extendingBounds c.toNat then codeEscape c
  else if isShown c then [c]
  else codeEscape c

/-- A string between quotes. -/
def string (s : String) : String :=
  String.ofList ('"' :: (s.toList.flatMap escaped ++ ['"']))

/-- A list of strings between brackets. -/
def strings (xs : List String) : String := "[" ++ ", ".intercalate (xs.map string) ++ "]"

end OutputArranger.Quoted
