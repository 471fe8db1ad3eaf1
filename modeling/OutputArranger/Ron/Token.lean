import OutputArranger.Ron.Basic

/-!
# The tokens of record notation

Blanks and comments may stand between any two tokens. Block comments nest.
-/

namespace OutputArranger.Ron

inductive Token where
  | openGroup
  | closeGroup
  | openList
  | closeList
  | openTable
  | closeTable
  | comma
  | colon
  | hash
  | bang
  | name (text : String)
  | number (text : String)
  | string (text : String)
  | foreign
deriving DecidableEq

/-- The token that a punctuation mark stands for. -/
def mark? (c : Char) : Option Token :=
  if c = '(' then some .openGroup
  else if c = ')' then some .closeGroup
  else if c = '[' then some .openList
  else if c = ']' then some .closeList
  else if c = '\x7b' then some .openTable
  else if c = '\x7d' then some .closeTable
  else if c = ',' then some .comma
  else if c = ':' then some .colon
  else if c = '#' then some .hash
  else if c = '!' then some .bang
  else none

/-- Blanks between tokens. -/
def isBlank (c : Char) : Bool :=
  [' ', '\t', '\n', '\r', '\x0b', '\x0c', '\u0085', '\u200e', '\u200f', '\u2028',
    '\u2029'].contains c

/-- What follows a block comment of which `level` are open. -/
def dropBlock : Nat → List Char → Option (List Char)
  | 0, cs => some cs
  | _ + 1, [] => none
  | level + 1, '/' :: '*' :: rest => dropBlock (level + 2) rest
  | level + 1, '*' :: '/' :: rest => dropBlock level rest
  | level + 1, _ :: rest => dropBlock (level + 1) rest

/-- Two hexadecimal digits. -/
def byte? (a b : Char) : Option Nat := do
  some ((← Json.hexValue? a) * 16 + (← Json.hexValue? b))

/-- Reads `count` more escaped bytes of a character. -/
def readBytes : Nat → List Char → Option (List Nat × List Char)
  | 0, cs => some ([], cs)
  | count + 1, '\\' :: 'x' :: a :: b :: rest => do
      let byte ← byte? a b
      let (bytes, rest) ← readBytes count rest
      some (byte :: bytes, rest)
  | _, _ => none

/-- The number of bytes of a character that begins with this one. -/
def bytesAfter (byte : Nat) : Nat :=
  if byte < 0xc0 then 0 else if byte < 0xe0 then 1 else if byte < 0xf0 then 2 else 3

/-- The only character that some bytes encode. -/
def charOfBytes? (bytes : List Nat) : Option Char :=
  match (String.fromUTF8? ⟨(bytes.map Nat.toUInt8).toArray⟩).map String.toList with
  | some [c] => some c
  | _ => none

/-- The character of hexadecimal digits between braces. -/
def charOfDigits? (cs : List Char) : Option (Char × List Char) := do
  let digits := cs.takeWhile (· ≠ '\x7d')
  if digits = [] ∨ 6 < digits.length then none
  let n ← digits.foldl (fun n c => do some ((← n) * 16 + (← Json.hexValue? c))) (some 0)
  match cs.drop digits.length with
  | _ :: rest => if n.isValidChar then some (Char.ofNat n, rest) else none
  | [] => none

/-- Reads an escape behind its backslash. -/
def readEscape : List Char → Option (Char × List Char)
  | '\'' :: rest => some ('\'', rest)
  | '"' :: rest => some ('"', rest)
  | '\\' :: rest => some ('\\', rest)
  | 'n' :: rest => some ('\n', rest)
  | 'r' :: rest => some ('\r', rest)
  | 't' :: rest => some ('\t', rest)
  | '0' :: rest => some ('\x00', rest)
  | 'x' :: a :: b :: rest => do
      let first ← byte? a b
      let (others, rest) ← readBytes (bytesAfter first) rest
      some (← charOfBytes? (first :: others), rest)
  | 'u' :: '\x7b' :: rest => charOfDigits? rest
  | _ => none

/-- Reads a string up to its closing quote; the fuel is the length of the text. -/
def readString : Nat → List Char → Option (List Char × List Char)
  | 0, _ => none
  | _, [] => none
  | _, '"' :: rest => some ([], rest)
  | fuel + 1, '\\' :: rest => do
      let (c, rest) ← readEscape rest
      let (cs, rest) ← readString fuel rest
      some (c :: cs, rest)
  | fuel + 1, c :: rest => do
      let (cs, rest) ← readString fuel rest
      some (c :: cs, rest)

/-- Reads up to a closing quote with so many hash signs behind it. -/
def readRaw (hashes : Nat) : List Char → Option (List Char × List Char)
  | [] => none
  | c :: rest =>
      let fence := List.replicate hashes '#'
      if c = '"' ∧ fence.isPrefixOf rest then some ([], rest.drop hashes)
      else (readRaw hashes rest).map fun (cs, after) => (c :: cs, after)

/-- Reads a string behind its mark: hash signs, a quote, and the same backwards. -/
def readMarkedString (cs : List Char) : Option (List Char × List Char) :=
  let hashes := (cs.takeWhile (· = '#')).length
  match cs.drop hashes with
  | '"' :: rest => readRaw hashes rest
  | _ => none

/-- Reads the rest of a character between single quotes. -/
def readQuoted : List Char → Option (List Char)
  | '\\' :: rest => do
      match ← readEscape rest with
      | (_, '\'' :: rest) => some rest
      | _ => none
  | _ :: '\'' :: rest => some rest
  | _ => none

/-- The name token of a marked name. A reserved word keeps its mark and so means nothing. -/
def markedName (s : String) : Token := .name (if reserved.contains s then "r#" ++ s else s)

/-- Reads a name: a marked one may hold more characters, which an unmarked one may not touch. -/
def readName : List Char → Option (Token × List Char)
  | 'r' :: '#' :: rest =>
      let text := rest.takeWhile inMarkedName
      if text = [] then none
      else some (markedName (String.ofList text), rest.drop text.length)
  | cs =>
      let text := cs.takeWhile inMarkedName
      if text.all inName then some (.name (String.ofList text), cs.drop text.length) else none

/-- A character that begins a number. -/
def startsNumber (c : Char) : Bool := c.isDigit || c = '+' || c = '-' || c = '.'

/-- A character that belongs to a number once it has begun. -/
def inNumber (c : Char) : Bool := c.isAlphanum || c = '_' || c = '.' || c = '+' || c = '-'

/-- Reads a number. -/
def readNumber (cs : List Char) : Option (Token × List Char) :=
  let word := cs.takeWhile inNumber
  let text := String.ofList word
  if isNumber text then some (.number text, cs.drop word.length) else none

/-- Reads one token; the characters do not begin with a blank. -/
def readToken (cs : List Char) : Option (Token × List Char) :=
  let textToken (o : Option (List Char × List Char)) : Option (Token × List Char) :=
    o.map fun (s, rest) => (.string (String.ofList s), rest)
  let foreign (o : Option (List Char × List Char)) : Option (Token × List Char) :=
    o.map fun (_, rest) => (.foreign, rest)
  match cs with
  | [] => none
  | '"' :: rest => textToken (readString cs.length rest)
  | 'r' :: '"' :: _ => textToken (readMarkedString (cs.drop 1))
  | 'r' :: '#' :: '"' :: _ => textToken (readMarkedString (cs.drop 1))
  | 'r' :: '#' :: '#' :: _ => textToken (readMarkedString (cs.drop 1))
  | 'b' :: '"' :: rest => foreign (readString cs.length rest)
  | 'b' :: 'r' :: '"' :: _ => foreign (readMarkedString (cs.drop 2))
  | 'b' :: 'r' :: '#' :: _ => foreign (readMarkedString (cs.drop 2))
  | 'b' :: '\'' :: rest => (readQuoted rest).map (.foreign, ·)
  | '\'' :: rest => (readQuoted rest).map (.foreign, ·)
  | c :: rest =>
      match mark? c with
      | some t => some (t, rest)
      | none =>
          if startsNumber c then readNumber cs
          else if startsName c then readName cs
          else none

/-- The tokens of a text; the fuel exceeds its length. -/
def tokensFrom : Nat → List Char → Option (List Token)
  | 0, _ => none
  | _ + 1, [] => some []
  | fuel + 1, '/' :: '/' :: rest => tokensFrom fuel (rest.dropWhile (· ≠ '\n'))
  | fuel + 1, '/' :: '*' :: rest => do tokensFrom fuel (← dropBlock 1 rest)
  | fuel + 1, c :: rest =>
      if isBlank c then tokensFrom fuel rest
      else do
        let (t, rest) ← readToken (c :: rest)
        some (t :: (← tokensFrom fuel rest))

/-- The tokens of a text. -/
def tokenize (cs : List Char) : Option (List Token) := tokensFrom (cs.length + 1) cs

end OutputArranger.Ron
