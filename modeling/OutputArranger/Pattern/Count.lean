import OutputArranger.Pattern.Flags

/-!
# Counted repetitions

Between braces stands how often a part is repeated: a number, or a least number and a comma, with
or without a greatest number behind it. Blanks may stand around the numbers.
-/

namespace OutputArranger.Pattern

open Unicode

/-- How often a part is repeated. -/
structure Count where
  least : Nat
  most : Option Nat
deriving DecidableEq

def Count.isValid (c : Count) : Bool := c.most.all (c.least ≤ ·)

/-- Numbers of a count stay below this. -/
def countLimit : Nat := 4294967296

/-- Digits at the front, in order; in verbose mode blanks may stand behind each of them. -/
def readDigits (flags : Flags) : Nat → List Char → List Char → List Char × List Char
  | 0, read, cs => (read.reverse, cs)
  | _ + 1, read, [] => (read.reverse, [])
  | fuel + 1, read, c :: rest =>
      if c.isDigit then readDigits flags fuel (c :: read) (skip flags rest)
      else (read.reverse, c :: rest)

/-- The number that digits at a place denote. -/
def decimal (digits : List Char) (span : Span) : Except Fault Nat :=
  let n := digits.foldl (fun n c => n * 10 + (c.toNat - '0'.toNat)) 0
  if digits = [] then refuse .countEmpty span
  else if n < countLimit then .ok n
  else refuse .decimal span

/-- A number and the blanks around it. What is wrong with the number may not matter yet, so it is
given beside the rest. -/
def readDecimal (flags : Flags) (cs : List Char) : Except Fault Nat × List Char :=
  let cs := cs.dropWhile isBlank
  let (digits, rest) := readDigits flags (cs.length + 1) [] cs
  (decimal digits (.between cs rest), skip flags (rest.dropWhile isBlank))

/-- The expression ends, or goes on with something else, before a count is closed. -/
def countUnclosed {α : Type} (brace rest : List Char) : Except Fault α :=
  refuse .countUnclosed (.between brace rest)

/-- After a repetition operator a question mark only changes which match is preferred. -/
def dropLazy : List Char → List Char
  | '?' :: rest => rest
  | cs => cs

/-- The numbers of a count, up to its closing brace, which is left; `brace` begins with the opening
one. -/
def readBounds (flags : Flags) (brace : List Char) : Except Fault (Count × List Char) :=
  let cs := skip flags (brace.drop 1)
  if cs = [] then countUnclosed brace []
  else
    match readDecimal flags cs with
    | (_, []) => countUnclosed brace []
    | (least, ',' :: rest) =>
        match skip flags rest with
        | [] => countUnclosed brace []
        | '\x7d' :: rest => do .ok (⟨← least, none⟩, '\x7d' :: rest)
        | cs => do
            let low ← least
            let (most, rest) := readDecimal flags cs
            .ok (⟨low, some (← most)⟩, rest)
    | (least, rest) => do
        let n ← least
        .ok (⟨n, some n⟩, rest)

/-- A counted repetition, which begins with its opening brace. Its numbers have to be in order. -/
def readCount (flags : Flags) (brace : List Char) : Except Fault (Count × List Char) := do
  let (count, rest) ← readBounds flags brace
  match rest with
  | '\x7d' :: rest =>
      let rest := dropLazy (skip flags rest)
      if count.isValid then .ok (count, rest) else refuse .countRange (.between brace rest)
  | _ => countUnclosed brace rest

end OutputArranger.Pattern
