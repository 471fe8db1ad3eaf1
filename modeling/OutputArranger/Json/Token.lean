import OutputArranger.Json.Basic
import OutputArranger.Number.Staged

/-!
# JSON tokens

The tokens of a JSON text and their reader, a machine that takes one character at a time. The
text of a document without optional blanks is just the text of its tokens, one after the other.

A string may be written so that it is no text: by half a surrogate pair, or with bytes that are no
characters. That is a fault only where the string is needed, and so it is a token as well.
-/

namespace OutputArranger.Json

inductive Token where
  | openBrace
  | closeBrace
  | openBracket
  | closeBracket
  | comma
  | colon
  | null
  | bool (value : Bool)
  | number (value : Number)
  | string (text : List Char)
  /-- A string that is no text. -/
  | garbled
deriving DecidableEq

/-- The four hexadecimal digits of a code unit. -/
def hexDigits (n : Nat) : List Char :=
  [n / 4096 % 16, n / 256 % 16, n / 16 % 16, n % 16].map Nat.digitChar

/-- A character inside a string. Quotes, backslashes and control characters are escaped. -/
def escaped (c : Char) : List Char :=
  if c = '"' then ['\\', '"']
  else if c = '\\' then ['\\', '\\']
  else if c = '\x08' then ['\\', 'b']
  else if c = '\x0c' then ['\\', 'f']
  else if c = '\n' then ['\\', 'n']
  else if c = '\r' then ['\\', 'r']
  else if c = '\t' then ['\\', 't']
  else if c.toNat < 32 then '\\' :: 'u' :: hexDigits c.toNat
  else [c]

/-- A float is written with the fewest digits; one that is not finite cannot be written. -/
def Number.text : Number → List Char
  | .whole i => (toString i).toList
  | .real x => if x.isFinite then x.compact.toList else "null".toList

def Token.text : Token → List Char
  | .openBrace => ['\x7b']
  | .closeBrace => ['\x7d']
  | .openBracket => ['[']
  | .closeBracket => [']']
  | .comma => [',']
  | .colon => [':']
  | .null => ['n', 'u', 'l', 'l']
  | .bool true => ['t', 'r', 'u', 'e']
  | .bool false => ['f', 'a', 'l', 's', 'e']
  | .number n => n.text
  | .string s => '"' :: (s.flatMap escaped ++ ['"'])
  | .garbled => ['"', '\\', 'u', 'd', '8', '0', '0', '"']

/-- Blanks that may stand between tokens. -/
def isBlank (c : Char) : Bool := c = ' ' || c = '\n' || c = '\t' || c = '\r'

def digitValue (c : Char) : Nat := c.toNat - '0'.toNat

/-- The value of a hexadecimal digit. -/
def hexValue? (c : Char) : Option Nat :=
  if '0' ≤ c ∧ c ≤ '9' then some (c.toNat - '0'.toNat)
  else if 'a' ≤ c ∧ c ≤ 'f' then some (c.toNat - 'a'.toNat + 10)
  else if 'A' ≤ c ∧ c ≤ 'F' then some (c.toNat - 'A'.toNat + 10)
  else none

/-- A number literal cut into its parts. -/
structure NumberParts where
  negative : Bool
  whole : List Char
  /-- The digits after the point, if there is a point. -/
  places : Option (List Char)
  /-- The sign and the digits of the exponent, if there is one. -/
  exponent : Option (Bool × List Char)
deriving DecidableEq

/-- Splits off the exponent of a literal. -/
def splitExponent (cs : List Char) : Option (List Char × Option (Bool × List Char)) :=
  let isE (c : Char) : Bool := c = 'e' || c = 'E'
  match cs.dropWhile (!isE ·) with
  | [] => some (cs, none)
  | _ :: power =>
      let (negative, digits) := match power with
        | '-' :: rest => (true, rest)
        | '+' :: rest => (false, rest)
        | rest => (false, rest)
      if digits ≠ [] ∧ digits.all Char.isDigit then
        some (cs.takeWhile (!isE ·), some (negative, digits))
      else none

/-- Cuts a literal into its parts; a superfluous leading zero, a point without digits and an
exponent without digits are refused. -/
def NumberParts.ofLiteral (cs : List Char) : Option NumberParts := do
  let (negative, cs) := match cs with
    | '-' :: rest => (true, rest)
    | rest => (false, rest)
  let (mantissa, exponent) ← splitExponent cs
  let whole := mantissa.takeWhile (· ≠ '.')
  let places := match mantissa.dropWhile (· ≠ '.') with
    | [] => none
    | _ :: digits => some digits
  if whole = [] ∨ !whole.all Char.isDigit then none
  else if 1 < whole.length ∧ whole.head? = some '0' then none
  else match places with
    | some digits =>
        if digits = [] ∨ !digits.all Char.isDigit then none
        else some ⟨negative, whole, places, exponent⟩
    | none => some ⟨negative, whole, places, exponent⟩

/-- The largest exponent that is still read as a number. -/
def maxExponent : Nat := 2147483647

def valueOfDigits (cs : List Char) : Nat := cs.foldl (fun n c => n * 10 + digitValue c) 0

/-- The number of a literal. Whole numbers stay whole as far as 64 bits go; minus zero is a
float. A literal beyond the range of floats becomes an infinity. -/
def NumberParts.value (p : NumberParts) : Number :=
  let signed (x : Binary64) : Number := .real { x with negative := p.negative }
  let digits := Staged.digits (p.whole.map digitValue) ((p.places.getD []).map digitValue)
  match p.places, p.exponent with
  | none, none =>
      if digits.full then signed ((Staged.toBinary64 digits.significand digits.exponent).getD
        (.infinity false))
      else if !p.negative then .whole digits.significand
      else if digits.significand = 0 ∨ 9223372036854775808 < digits.significand then
        signed (.ofNat digits.significand)
      else .whole (-(digits.significand : Int))
  | _, some (negative, power) =>
      let size := valueOfDigits power
      if maxExponent < size then
        signed (if !negative ∧ digits.significand ≠ 0 then .infinity false else .ofNat 0)
      else
        let exponent := digits.exponent + (if negative then -(size : Int) else size)
        signed ((Staged.toBinary64 digits.significand exponent).getD (.infinity false))
  | some _, none =>
      signed ((Staged.toBinary64 digits.significand digits.exponent).getD (.infinity false))

/-- The value of a literal or a word that runs until a blank or a punctuation mark. -/
def Token.ofWord (cs : List Char) : Option Token :=
  if cs = ['n', 'u', 'l', 'l'] then some .null
  else if cs = ['t', 'r', 'u', 'e'] then some (.bool true)
  else if cs = ['f', 'a', 'l', 's', 'e'] then some (.bool false)
  else (NumberParts.ofLiteral cs).map fun p => .number p.value

/-- The token that a punctuation mark stands for. -/
def Token.ofMark? (c : Char) : Option Token :=
  if c = '\x7b' then some .openBrace
  else if c = '\x7d' then some .closeBrace
  else if c = '[' then some .openBracket
  else if c = ']' then some .closeBracket
  else if c = ',' then some .comma
  else if c = ':' then some .colon
  else none

/-- Where the reader stands. What has been read of a token is kept in reverse. -/
inductive Lexer where
  | between
  | word (read : List Char)
  | string (read : List Char)
  | escape (read : List Char)
  /-- Inside `\u`: the digits so far, and the high surrogate that came before, if any. -/
  | unit (read : List Char) (high : Option Nat) (digits : List Nat)
  /-- After a high surrogate, where only `\u` may follow. -/
  | pair (read : List Char) (high : Nat)
  | pairEscape (read : List Char) (high : Nat)
  /-- Inside a string that is no text. -/
  | garbled
  | garbledEscape
  /-- Inside `\u`, after so many digits. -/
  | garbledUnit (digits : Nat)
deriving DecidableEq

/-- The character of a simple escape. -/
def simpleEscape? (c : Char) : Option Char :=
  if c = '"' then some '"'
  else if c = '\\' then some '\\'
  else if c = '/' then some '/'
  else if c = 'b' then some '\x08'
  else if c = 'f' then some '\x0c'
  else if c = 'n' then some '\n'
  else if c = 'r' then some '\r'
  else if c = 't' then some '\t'
  else none

def isHighSurrogate (u : Nat) : Bool := 0xD800 ≤ u && u < 0xDC00

def isLowSurrogate (u : Nat) : Bool := 0xDC00 ≤ u && u < 0xE000

/-- What a code unit means, given the high surrogate before it. A surrogate without its other
half is no character. -/
def Lexer.unitDone (read : List Char) (high : Option Nat) (u : Nat) : Lexer :=
  match high with
  | some h =>
      if isLowSurrogate u then
        .string (Char.ofNat (0x10000 + (h - 0xD800) * 0x400 + (u - 0xDC00)) :: read)
      else .garbled
  | none =>
      if isHighSurrogate u then .pair read u
      else if isLowSurrogate u then .garbled
      else .string (Char.ofNat u :: read)

/-- Reads a character where a token may begin. -/
def Lexer.begin (c : Char) : List Token × Lexer :=
  match Token.ofMark? c with
  | some t => ([t], .between)
  | none => if c = '"' then ([], .string []) else ([], .word [c])

/-- Reads a character of a string that is no text. -/
def Lexer.garbledStep (c : Char) : Option (List Token × Lexer) :=
  if c = '"' then some ([.garbled], .between)
  else if c = '\\' then some ([], .garbledEscape)
  else if c.toNat < 32 then none
  else some ([], .garbled)

/-- Reads the character behind a backslash of such a string. -/
def Lexer.garbledEscapeStep (c : Char) : Option (List Token × Lexer) :=
  if c = 'u' then some ([], .garbledUnit 0)
  else (simpleEscape? c).map fun _ => ([], .garbled)

/-- Reads one character: the tokens that it completes, in order, and where the reader then
stands. -/
def Lexer.step (s : Lexer) (c : Char) : Option (List Token × Lexer) :=
  match s with
  | .between => if isBlank c then some ([], .between) else some (Lexer.begin c)
  | .word read =>
      if isBlank c then (Token.ofWord read.reverse).map fun t => ([t], .between)
      else match Token.ofMark? c with
        | some mark => (Token.ofWord read.reverse).map fun t => ([t, mark], .between)
        | none => if c = '"' then none else some ([], .word (c :: read))
  | .string read =>
      if c = '"' then some ([.string read.reverse], .between)
      else if c = '\\' then some ([], .escape read)
      else if c.toNat < 32 then none
      else some ([], .string (c :: read))
  | .escape read =>
      if c = 'u' then some ([], .unit read none [])
      else (simpleEscape? c).map fun d => ([], .string (d :: read))
  | .unit read high digits => do
      let digit ← hexValue? c
      match digits with
      | [x, y, z] => some ([], .unitDone read high (((x * 16 + y) * 16 + z) * 16 + digit))
      | _ => some ([], .unit read high (digits ++ [digit]))
  | .pair read high =>
      if c = '\\' then some ([], .pairEscape read high) else Lexer.garbledStep c
  | .pairEscape read high =>
      if c = 'u' then some ([], .unit read (some high) []) else Lexer.garbledEscapeStep c
  | .garbled => Lexer.garbledStep c
  | .garbledEscape => Lexer.garbledEscapeStep c
  | .garbledUnit digits =>
      (hexValue? c).map fun _ => ([], if digits < 3 then .garbledUnit (digits + 1) else .garbled)

/-- Reads bytes that are no character. They may only stand inside a string. -/
def Lexer.lose : Lexer → Option (List Token × Lexer)
  | .string _ | .pair _ _ | .garbled => some ([], .garbled)
  | _ => none

/-- Reads one character, or bytes that are none. -/
def Lexer.read (s : Lexer) : Option Char → Option (List Token × Lexer)
  | some c => s.step c
  | none => s.lose

/-- The end of the text: only a word may still be open. -/
def Lexer.finish : Lexer → Option (List Token)
  | .between => some []
  | .word read => (Token.ofWord read.reverse).map fun t => [t]
  | _ => none

/-- The tokens of what is still to come. -/
def Lexer.run (s : Lexer) : List (Option Char) → Option (List Token)
  | [] => s.finish
  | piece :: rest =>
      match s.read piece with
      | none => none
      | some (tokens, next) => (next.run rest).map (tokens ++ ·)

/-- The tokens of the characters of a text. -/
def tokenize (pieces : List (Option Char)) : Option (List Token) := Lexer.run .between pieces

end OutputArranger.Json
