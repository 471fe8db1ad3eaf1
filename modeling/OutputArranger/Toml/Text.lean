import OutputArranger.Json.Token

/-!
# TOML strings

A string has four written forms: between single or triple quotes of either kind. Between double
quotes a backslash begins an escape, between single quotes nothing does. Only the triple forms may
hold line breaks. The writer takes the first form that shows the text as it is, and falls back on
escapes.
-/

namespace OutputArranger.Toml.Text

/-- Control characters that only an escape can write. Tabs and line feeds are not among them. -/
def isControl (c : Char) : Bool :=
  (c.toNat < 32 && c ≠ '\t' && c ≠ '\n') || c.toNat = 127

/-- The length of the longest run of `q`, given the longest so far and the current one. -/
def longestRun (q : Char) (longest current : Nat) : List Char → Nat
  | [] => longest
  | c :: rest =>
      if c = q then longestRun q (max longest (current + 1)) (current + 1) rest
      else longestRun q longest 0 rest

/-- The ways to write a string. -/
inductive Form where
  | basic
  | literal
  | multiBasic
  | multiLiteral
deriving DecidableEq

/-- The form in which a text is written. -/
def formFor (cs : List Char) : Form :=
  let control := cs.any isControl
  let newline := cs.contains '\n'
  let backslash := cs.contains '\\'
  let doubles := longestRun '"' 0 0 cs
  let singles := longestRun '\'' 0 0 cs
  if !control && !newline && !backslash && doubles == 0 then .basic
  else if !control && !newline && singles == 0 then .literal
  else if !control && !backslash && decide (doubles ≤ 2) then .multiBasic
  else if !control && decide (singles ≤ 2) then .multiLiteral
  else if newline then .multiBasic
  else .basic

/-- The upper-case digits of a control character's code. -/
def hexDigits (n : Nat) : List Char :=
  [n / 4096 % 16, n / 256 % 16, n / 16 % 16, n % 16].map fun d => (Nat.digitChar d).toUpper

/-- The escape of a character other than a double quote, if it needs one. -/
def escape? (multi : Bool) (c : Char) : Option (List Char) :=
  if c = '\x08' then some ['\\', 'b']
  else if c = '\t' then some ['\\', 't']
  else if c = '\n' then if multi then none else some ['\\', 'n']
  else if c = '\x0c' then some ['\\', 'f']
  else if c = '\r' then some ['\\', 'r']
  else if c = '\\' then some ['\\', '\\']
  else if c.toNat < 32 ∨ c.toNat = 127 then some ('\\' :: 'u' :: hexDigits c.toNat)
  else none

/-- The inside of a string between double quotes. `quotes` double quotes have just been written
as they are; in the triple form two may stand in a row, otherwise none. -/
def escaped (multi : Bool) (quotes : Nat) : List Char → List Char
  | [] => []
  | c :: rest =>
      if c = '"' then
        if multi ∧ quotes < 2 then '"' :: escaped multi (quotes + 1) rest
        else '\\' :: '"' :: escaped multi 0 rest
      else match escape? multi c with
        | some e => e ++ escaped multi 0 rest
        | none => c :: escaped multi 0 rest

/-- A line break that opens a triple form is no part of the string. It is written where the string
has line breaks of its own. -/
def opening (cs : List Char) : List Char := if cs.contains '\n' then ['\n'] else []

/-- The written form of a text. -/
def encode (cs : List Char) : List Char :=
  match formFor cs with
  | .basic => '"' :: (escaped false 0 cs ++ ['"'])
  | .literal => '\'' :: (cs ++ ['\''])
  | .multiBasic => ['"', '"', '"'] ++ opening cs ++ escaped true 0 cs ++ ['"', '"', '"']
  | .multiLiteral => ['\'', '\'', '\''] ++ opening cs ++ cs ++ ['\'', '\'', '\'']

/-- Characters that may stand for themselves inside a string on one line. -/
def isPlain (c : Char) : Bool := c = '\t' || (32 ≤ c.toNat && c.toNat ≠ 127)

/-- The character of a code point given by hexadecimal digits. -/
def charOfHex? (digits : List Char) : Option Char := do
  let values ← digits.mapM Json.hexValue?
  let n := values.foldl (fun n d => n * 16 + d) 0
  if n < 0xD800 ∨ (0xDFFF < n ∧ n < 0x110000) then some (Char.ofNat n) else none

/-- The character of an escape of one letter. -/
def simpleEscape? (c : Char) : Option Char :=
  if c = 'b' then some '\x08'
  else if c = 't' then some '\t'
  else if c = 'n' then some '\n'
  else if c = 'f' then some '\x0c'
  else if c = 'r' then some '\r'
  else if c = 'e' then some '\x1b'
  else if c = '"' then some '"'
  else if c = '\\' then some '\\'
  else none

/-- Puts a character in front of what a reader returns. -/
def push (c : Char) : Option (List Char × List Char) → Option (List Char × List Char)
  | some (text, rest) => some (c :: text, rest)
  | none => none

/-- Reads the inside of a string between double quotes, and the quote. -/
def readBasic : List Char → Option (List Char × List Char)
  | [] => none
  | '"' :: rest => some ([], rest)
  | '\\' :: 'x' :: a :: b :: rest =>
      match charOfHex? [a, b] with
      | some x => push x (readBasic rest)
      | none => none
  | '\\' :: 'u' :: a :: b :: c :: d :: rest =>
      match charOfHex? [a, b, c, d] with
      | some x => push x (readBasic rest)
      | none => none
  | '\\' :: 'U' :: a :: b :: c :: d :: e :: f :: g :: h :: rest =>
      match charOfHex? [a, b, c, d, e, f, g, h] with
      | some x => push x (readBasic rest)
      | none => none
  | '\\' :: c :: rest =>
      match simpleEscape? c with
      | some x => push x (readBasic rest)
      | none => none
  | c :: rest => if isPlain c && c ≠ '\\' then push c (readBasic rest) else none

/-- Reads the inside of a string between single quotes, and the quote. -/
def readLiteral : List Char → Option (List Char × List Char)
  | [] => none
  | '\'' :: rest => some ([], rest)
  | c :: rest => if isPlain c then push c (readLiteral rest) else none

/-- Up to two quotes right before the closing ones belong to the string. -/
def closing (q : Char) (cs : List Char) : List Char × List Char :=
  match cs with
  | a :: b :: rest =>
      if a = q then if b = q then ([q, q], rest) else ([q], b :: rest) else ([], cs)
  | [a] => if a = q then ([q], []) else ([], cs)
  | [] => ([], [])

/-- What follows a backslash at the end of a line: all blanks and line breaks are dropped. -/
def isTrimmed (c : Char) : Bool := c = ' ' || c = '\t' || c = '\n' || c = '\r'

/-- Whether a backslash ends its line, with nothing but blanks behind it. -/
def endsLine : List Char → Bool
  | ' ' :: rest => endsLine rest
  | '\t' :: rest => endsLine rest
  | '\n' :: _ => true
  | '\r' :: '\n' :: _ => true
  | _ => false

/-- Where the reader of a triple form between double quotes stands: inside the text, or dropping
blanks after a backslash at the end of a line. -/
def readMultiBasic (dropping : Bool) : List Char → Option (List Char × List Char)
  | [] => none
  | '"' :: '"' :: '"' :: rest => some (closing '"' rest)
  | '\\' :: 'x' :: a :: b :: rest =>
      match charOfHex? [a, b] with
      | some x => push x (readMultiBasic false rest)
      | none => none
  | '\\' :: 'u' :: a :: b :: c :: d :: rest =>
      match charOfHex? [a, b, c, d] with
      | some x => push x (readMultiBasic false rest)
      | none => none
  | '\\' :: 'U' :: a :: b :: c :: d :: e :: f :: g :: h :: rest =>
      match charOfHex? [a, b, c, d, e, f, g, h] with
      | some x => push x (readMultiBasic false rest)
      | none => none
  | '\\' :: c :: rest =>
      match simpleEscape? c with
      | some x => push x (readMultiBasic false rest)
      | none => if endsLine (c :: rest) then readMultiBasic true (c :: rest) else none
  | '\r' :: '\n' :: rest =>
      if dropping then readMultiBasic true rest
      else push '\r' (push '\n' (readMultiBasic false rest))
  | c :: rest =>
      if dropping && isTrimmed c then readMultiBasic true rest
      else if c = '\n' || (isPlain c && c ≠ '\\') then push c (readMultiBasic false rest)
      else none

/-- Reads the inside of a triple form between single quotes, and the quotes. -/
def readMultiLiteral : List Char → Option (List Char × List Char)
  | [] => none
  | '\'' :: '\'' :: '\'' :: rest => some (closing '\'' rest)
  | '\r' :: '\n' :: rest => push '\r' (push '\n' (readMultiLiteral rest))
  | c :: rest => if c = '\n' || isPlain c then push c (readMultiLiteral rest) else none

/-- Drops the line break that opens a triple form. -/
def dropBreak : List Char → List Char
  | '\n' :: rest => rest
  | '\r' :: '\n' :: rest => rest
  | cs => cs

/-- Reads a string in any form. -/
def read : List Char → Option (List Char × List Char)
  | '"' :: '"' :: '"' :: rest => readMultiBasic false (dropBreak rest)
  | '\'' :: '\'' :: '\'' :: rest => readMultiLiteral (dropBreak rest)
  | '"' :: rest => readBasic rest
  | '\'' :: rest => readLiteral rest
  | _ => none

end OutputArranger.Toml.Text
