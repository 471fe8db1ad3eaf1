import OutputArranger.Pattern.Expression
import OutputArranger.Pattern.Flags
import OutputArranger.Pattern.Property

/-!
# Escapes

A backslash begins a character by its code, a class of characters, a property, a place between
characters, or a character that would otherwise have a meaning of its own.
-/

namespace OutputArranger.Pattern

open Unicode

def hexValue? (c : Char) : Option Nat :=
  if '0' ≤ c ∧ c ≤ '9' then some (c.toNat - '0'.toNat)
  else if 'a' ≤ c ∧ c ≤ 'f' then some (c.toNat - 'a'.toNat + 10)
  else if 'A' ≤ c ∧ c ≤ 'F' then some (c.toNat - 'A'.toNat + 10)
  else none

/-- The character of a code point; surrogates and what lies past the last one are none. -/
def charOfCode? (n : Nat) : Option Char :=
  if n < 0xD800 ∨ (0xDFFF < n ∧ n < codeLimit) then some (Char.ofNat n) else none

/-- The character of a code, or a fault at its digits. -/
def charOfCode (n : Nat) (digits : Span) : Except Fault Char :=
  match charOfCode? n with
  | some c => .ok c
  | none => refuse .hexInvalid digits

/-- Exactly `count` hexadecimal digits. -/
def readHexDigits (flags : Flags) : Nat → Nat → List Char → Except Fault (Nat × List Char)
  | 0, n, cs => .ok (n, cs)
  | _ + 1, _, [] => refuse .escapeEnd (.before [])
  | count + 1, n, c :: rest =>
      match hexValue? c with
      | none => refuse .hexDigit (.first (c :: rest))
      | some d => readHexDigits flags count (n * 16 + d) (skip flags rest)

/-- Hexadecimal digits up to a closing brace, from after the opening one; `brace` begins there and
`fuel` bounds the number of digits. -/
def readHexBrace (flags : Flags) (brace : List Char) :
    Nat → Bool → Nat → List Char → Except Fault (Char × List Char)
  | 0, _, _, _ => refuse .escapeEnd (.before [])
  | _ + 1, _, _, [] => refuse .escapeEnd (.between brace [])
  | fuel + 1, any, n, c :: rest =>
      if c = '\x7d' then
        let after := skip flags rest
        if any then
          (charOfCode n (.between (brace.drop 1) (c :: rest))).map fun d => (d, after)
        else refuse .hexEmpty (.between brace after)
      else match hexValue? c with
        | none => refuse .hexDigit (.first (c :: rest))
        | some d =>
            readHexBrace flags brace fuel true (min (n * 16 + d) codeLimit) (skip flags rest)

/-- What stands behind a backslash, or a single character. -/
inductive Atom where
  | char (c : Char)
  /-- A byte above ASCII, which only occurs where Unicode is switched off. -/
  | byte (n : Nat)
  | set (s : CodeSet)
  | place (condition : Place)
deriving DecidableEq

def asciiDigits : CodeSet := .range 48 57

def asciiBlanks : CodeSet := .ofCodes [9, 10, 11, 12, 13, 32]

def asciiWords : CodeSet :=
  ((asciiDigits.union (.range 65 90)).union (.range 97 122)).union (.single '_')

/-- The characters of a one-letter class such as `\d`. -/
def letterSet (flags : Flags) (c : Char) : CodeSet :=
  match c.toLower with
  | 'd' => if flags.unicode then CodeSet.digits else asciiDigits
  | 's' => if flags.unicode then CodeSet.blanks else asciiBlanks
  | _ => if flags.unicode then CodeSet.words else asciiWords

/-- The class of a one-letter escape; upper case stands for the complement. Without Unicode a
complement would match parts of characters and is refused. -/
def letterClass (flags : Flags) (c : Char) (span : Span) : Except Fault CodeSet :=
  flags.resolve
    (if c.isLower then .ok (letterSet flags c)
    else if flags.unicode then .ok (letterSet flags c).complement
    else refuse .notText span)

/-- Characters up to a closing brace, blanks dropped in verbose mode. -/
def readBraced (flags : Flags) : Nat → List Char → List Char → Except Fault (List Char × List Char)
  | 0, _, _ => refuse .escapeEnd (.before [])
  | _ + 1, _, [] => refuse .escapeEnd (.before [])
  | fuel + 1, read, c :: rest =>
      if c = '\x7d' then .ok (read.reverse, rest)
      else readBraced flags fuel (c :: read) (skip flags rest)

/-- The class of a property at a place of an expression. -/
def propertyClass (flags : Flags) (negated : Bool) (span : Span)
    (found : Except FaultKind CodeSet) : Except Fault CodeSet :=
  flags.resolve
    (if flags.unicode then
      match found with
      | .error kind => refuse kind span
      | .ok s =>
          let folded := foldCase flags s
          .ok (if negated then folded.complement else folded)
    else refuse .unicodeOff span)

/-- The class after `\p` or `\P`; `start` is where the escape begins. -/
def readProperty (flags : Flags) (negated : Bool) (start cs : List Char) :
    Except Fault (Atom × List Char) :=
  match skip flags cs with
  | [] => refuse .escapeEnd (.before [])
  | '\x7b' :: rest => do
      let (name, rest) ← readBraced flags (rest.length + 1) [] (skip flags rest)
      let s ← propertyClass flags negated (.between start rest) (bracedProperty name)
      .ok (.set s, rest)
  | c :: rest => do
      if c = '\\' then refuse .propertyInvalid (.first (c :: rest))
      let rest := skip flags rest
      let s ← propertyClass flags negated (.between start rest) (propertySet [c])
      .ok (.set s, rest)

/-- Whether a character may stand behind a backslash for itself. -/
def isEscapable (c : Char) : Bool :=
  c.toNat < 128 && !c.isAlphanum && c ≠ '<' && c ≠ '>'

def isBoundaryLetter (c : Char) : Bool := c.isAlpha || c = '-'

/-- The letters of a special word boundary such as `\b{start}`, up to its closing brace, which is
left; `brace` begins with the opening one. -/
def readBoundaryName (flags : Flags) (brace : List Char) :
    Nat → List Char → List Char → Except Fault (List Char × List Char)
  | 0, _, cs => refuse .boundaryUnclosed (.between brace cs)
  | _ + 1, _, [] => refuse .boundaryUnclosed (.between brace [])
  | fuel + 1, read, c :: rest =>
      if isBoundaryLetter c then readBoundaryName flags brace fuel (c :: read) (skip flags rest)
      else if c = '\x7d' then .ok (read.reverse, c :: rest)
      else refuse .boundaryUnclosed (.between brace (c :: rest))

/-- The place that a special word boundary names. -/
def boundary? (ascii : Bool) (name : List Char) : Option Place :=
  match String.ofList name with
  | "start" => some (.wordStart ascii)
  | "end" => some (.wordEnd ascii)
  | "start-half" => some (.wordStartHalf ascii)
  | "end-half" => some (.wordEndHalf ascii)
  | _ => none

/-- What follows `\b`: an opening brace and a letter begin a special boundary, any other brace is
left for a counted repetition. -/
def readBoundary (flags : Flags) (start cs : List Char) : Except Fault (Atom × List Char) :=
  let ascii := !flags.unicode
  let plain := .ok (Atom.place (.wordBoundary ascii), cs)
  match cs with
  | '\x7b' :: rest =>
      match skip flags rest with
      | [] => refuse .boundaryOrCountEnd (.between start [])
      | c :: rest =>
          if !isBoundaryLetter c then plain
          else do
            let (name, after) ← readBoundaryName flags cs (rest.length + 2) [] (c :: rest)
            match boundary? ascii name with
            | some place => .ok (.place place, after.drop 1)
            | none => refuse .boundaryUnknown (.between (c :: rest) after)
  | _ => plain

/-- What follows `\x`, `\u` or `\U`: so many digits, or any number of them between braces. -/
def readHex (flags : Flags) (count : Nat) (cs : List Char) : Except Fault (Atom × List Char) :=
  match skip flags cs with
  | [] => refuse .escapeEnd (.before [])
  | '\x7b' :: rest => do
      let (c, rest) ←
        readHexBrace flags ('\x7b' :: rest) (rest.length + 1) false 0 (skip flags rest)
      .ok (.char c, rest)
  | digits => do
      let (n, rest) ← readHexDigits flags count 0 digits
      let c ← charOfCode n (.between digits rest)
      .ok (if count = 2 ∧ !flags.unicode ∧ 128 ≤ n then .byte n else .char c, rest)

/-- What follows a backslash; `start` begins with it. -/
def readEscape (flags : Flags) (start cs : List Char) : Except Fault (Atom × List Char) :=
  let ascii := !flags.unicode
  match cs with
  | [] => refuse .escapeEnd (.between start [])
  | c :: rest =>
      let code (n : Nat) : Except Fault (Atom × List Char) := .ok (.char (Char.ofNat n), rest)
      match c with
      | 'x' => readHex flags 2 rest
      | 'u' => readHex flags 4 rest
      | 'U' => readHex flags 8 rest
      | 'p' => readProperty flags false start rest
      | 'P' => readProperty flags true start rest
      | 'd' | 's' | 'w' | 'D' | 'S' | 'W' =>
          (letterClass flags c (.between start rest)).map fun s => (.set s, rest)
      | 'a' => code 7
      | 'f' => code 12
      | 't' => code 9
      | 'n' => code 10
      | 'r' => code 13
      | 'v' => code 11
      | 'A' => .ok (.place .textStart, rest)
      | 'z' => .ok (.place .textEnd, rest)
      | 'b' => readBoundary flags start rest
      | 'B' => .ok (.place (.notWordBoundary ascii), rest)
      | '<' => .ok (.place (.wordStart ascii), rest)
      | '>' => .ok (.place (.wordEnd ascii), rest)
      | _ =>
          if c.isDigit then refuse .backreference (.between start rest)
          else if isEscapable c then .ok (.char c, rest)
          else refuse .escapeUnknown (.between start rest)

end OutputArranger.Pattern
