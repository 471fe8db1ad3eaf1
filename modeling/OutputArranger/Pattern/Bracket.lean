import OutputArranger.Pattern.Escape

/-!
# Bracketed classes

A class lists characters, ranges and other classes, and joins such lists by set operations. Classes
nest; those that are still open are kept in a list, the innermost first.
-/

namespace OutputArranger.Pattern

open Unicode

/-- The classes that are written between colons inside a bracketed class. -/
def asciiClass? (name : String) : Option CodeSet :=
  let upper := CodeSet.range 65 90
  let lower := CodeSet.range 97 122
  let alpha := upper.union lower
  match name with
  | "alnum" => some (alpha.union asciiDigits)
  | "alpha" => some alpha
  | "ascii" => some (.range 0 127)
  | "blank" => some (.ofCodes [9, 32])
  | "cntrl" => some ((CodeSet.range 0 31).union (.range 127 127))
  | "digit" => some asciiDigits
  | "graph" => some (.range 33 126)
  | "lower" => some lower
  | "print" => some (.range 32 126)
  | "punct" =>
      some ((((CodeSet.range 33 47).union (.range 58 64)).union (.range 91 96)).union
        (.range 123 126))
  | "space" => some asciiBlanks
  | "upper" => some upper
  | "word" => some asciiWords
  | "xdigit" => some ((asciiDigits.union (.range 65 70)).union (.range 97 102))
  | _ => none

/-- A class such as `[:alpha:]`, if one begins here; what is left over follows it. -/
def readAsciiClass (flags : Flags) (cs : List Char) : Option (CodeSet × List Char) :=
  match cs with
  | '[' :: ':' :: rest =>
      let (negated, rest) := match rest with
        | '^' :: rest => (true, rest)
        | rest => (false, rest)
      let name := rest.takeWhile (· ≠ ':')
      match rest.dropWhile (· ≠ ':') with
      | ':' :: ']' :: rest =>
          (asciiClass? (String.ofList name)).map fun s =>
            (if negated then flags.complement s else s, rest)
      | _ => none
  | _ => none

/-- How two operands of a class are joined. -/
inductive SetOp where
  | inter
  | diff
  | symmDiff
deriving DecidableEq

def SetOp.apply : SetOp → CodeSet → CodeSet → CodeSet
  | .inter => CodeSet.inter
  | .diff => CodeSet.diff
  | .symmDiff => CodeSet.symmDiff

/-- A bracketed class that is still open. -/
structure OpenClass where
  /-- Where the class begins and where its opening ends. -/
  opening : Span
  negated : Bool
  /-- The operation that waits for its right side, and its left side. -/
  waiting : Option (SetOp × CodeSet)
  /-- The union of the items of the current operand. -/
  items : CodeSet
deriving DecidableEq

namespace OpenClass

/-- Adds an item to the current operand. -/
def add (c : OpenClass) (s : CodeSet) : OpenClass := { c with items := c.items.union s }

/-- Finishes the current operand. Where an operation is applied, both sides are closed under case
first. -/
def operand (flags : Flags) (c : OpenClass) : CodeSet :=
  match c.waiting with
  | none => c.items
  | some (op, left) => op.apply (foldCase flags left) (foldCase flags c.items)

/-- Closes a class in front of `rest`. Without Unicode only ASCII may be left in it. -/
def close (flags : Flags) (c : OpenClass) (rest : List Char) : Except Fault CodeSet :=
  let folded := foldCase flags (c.operand flags)
  let result := if c.negated then flags.complement folded else folded
  flags.resolve
    (if flags.unicode || result.isAscii then .ok result
    else refuse .notText ⟨c.opening.start, rest.length⟩)

/-- The expression ends inside a class. -/
def unclosed {α : Type} (c : OpenClass) : Except Fault α := refuse .classUnclosed c.opening

end OpenClass

/-- Hyphens that open a class stand for themselves; `bracket` is where the class begins. -/
def readHyphens (flags : Flags) (bracket : List Char) :
    Nat → CodeSet → List Char → Except Fault (CodeSet × List Char)
  | 0, _, _ => refuse .classUnclosed (.before bracket)
  | _ + 1, _, [] => refuse .classUnclosed (.before bracket)
  | fuel + 1, items, c :: rest =>
      if c = '-' then
        readHyphens flags bracket fuel (items.union (.single '-')) (skip flags rest)
      else .ok (items, c :: rest)

/-- What is left of a class after a part of its opening, where it must not end. -/
def openingRest (flags : Flags) (bracket rest : List Char) : Except Fault (List Char) :=
  match skip flags rest with
  | [] => refuse .classUnclosed (.between bracket [])
  | cs => .ok cs

/-- The opening of a class, which begins with `bracket`: a negation, hyphens, and a closing bracket
that stands for itself when nothing came before it. -/
def readClassOpen (flags : Flags) (bracket : List Char) : Except Fault (OpenClass × List Char) := do
  let cs ← openingRest flags bracket (bracket.drop 1)
  let (negated, cs) ← match cs with
    | '^' :: rest => do .ok (true, ← openingRest flags bracket rest)
    | cs => .ok (false, cs)
  let (items, cs) ← readHyphens flags bracket (cs.length + 1) .empty cs
  match cs with
  | ']' :: rest =>
      if items = .empty then
        let rest ← openingRest flags bracket rest
        .ok (⟨.between bracket rest, negated, none, .single ']'⟩, rest)
      else .ok (⟨.between bracket cs, negated, none, items⟩, cs)
  | _ => .ok (⟨.between bracket cs, negated, none, items⟩, cs)

/-- One character or escape inside a class. -/
def readClassAtom (flags : Flags) (current : OpenClass) :
    List Char → Except Fault (Atom × List Char)
  | [] => current.unclosed
  | '\\' :: rest => readEscape flags ('\\' :: rest) rest
  | c :: rest => .ok (.char c, rest)

/-- The code of a single character at an end of a range. -/
def Atom.code (span : Span) : Atom → Except Fault Nat
  | .char c => .ok c.toNat
  | .byte n => .ok n
  | _ => refuse .classRangeLiteral span

/-- Without Unicode a character above ASCII cannot be part of a class. -/
def Atom.check (flags : Flags) (span : Span) : Atom → Except Fault Unit
  | .char c =>
      if flags.resolves && !flags.unicode && !decide (c.toNat < 128) then refuse .unicodeOff span
      else .ok ()
  | _ => .ok ()

/-- The set of a single item. A place between characters is none. -/
def Atom.toSet (flags : Flags) (span : Span) (a : Atom) : Except Fault CodeSet :=
  match a with
  | .char c => (a.check flags span).map fun _ => .single c
  | .byte n => .ok (.range n n)
  | .set s => .ok s
  | .place _ => refuse .classEscape span

/-- Whether a hyphen in front of this is no part of a range. -/
def endsItem (next : List Char) : Bool := next.head? = some ']' || next.head? = some '-'

/-- An item or a range of a class. -/
def readClassItem (flags : Flags) (current : OpenClass) (cs : List Char) :
    Except Fault (CodeSet × List Char) := do
  let (first, afterFirst) ← readClassAtom flags current cs
  let firstSpan := Span.between cs afterFirst
  match skip flags afterFirst with
  | [] => current.unclosed
  | '-' :: rest =>
      let next := skip flags rest
      if endsItem next then .ok (← first.toSet flags firstSpan, '-' :: rest)
      else do
        let (last, after) ← readClassAtom flags current next
        let lastSpan := Span.between next after
        let a ← first.code firstSpan
        let b ← last.code lastSpan
        if b < a then refuse .classRange (.between cs after)
        first.check flags firstSpan
        last.check flags lastSpan
        .ok (.range a b, after)
  | rest => .ok (← first.toSet flags firstSpan, rest)

/-- The operation that begins here, if any. -/
def setOp? : List Char → Option (SetOp × List Char)
  | '&' :: '&' :: rest => some (.inter, rest)
  | '-' :: '-' :: rest => some (.diff, rest)
  | '~' :: '~' :: rest => some (.symmDiff, rest)
  | _ => none

/-- A bracketed class after its opening: `outer` are the classes around the current one. The second
result is how deep classes were nested. -/
def readClass (flags : Flags) : Nat → OpenClass → List OpenClass → Nat → List Char →
    Except Fault ((CodeSet × Nat) × List Char)
  | 0, current, _, _, _ => current.unclosed
  | fuel + 1, current, outer, depth, cs =>
      match skip flags cs with
      | [] => current.unclosed
      | '[' :: rest =>
          match readAsciiClass flags ('[' :: rest) with
          | some (s, rest) => readClass flags fuel (current.add s) outer depth rest
          | none => do
              let (inner, rest) ← readClassOpen flags ('[' :: rest)
              readClass flags fuel inner (current :: outer) (max depth (outer.length + 2)) rest
      | ']' :: rest => do
          let s ← current.close flags rest
          match outer with
          | [] => .ok ((s, max depth 1), rest)
          | around :: outer => readClass flags fuel (around.add s) outer depth rest
      | cs =>
          match setOp? cs with
          | some (op, rest) =>
              let left := current.operand flags
              readClass flags fuel { current with waiting := some (op, left), items := .empty }
                outer depth rest
          | none => do
              let (s, rest) ← readClassItem flags current cs
              readClass flags fuel (current.add s) outer depth rest

/-- A whole class, which begins with its bracket, with its nesting depth. -/
def readBracketed (flags : Flags) (bracket : List Char) :
    Except Fault ((CodeSet × Nat) × List Char) := do
  let (first, rest) ← readClassOpen flags bracket
  readClass flags (rest.length + 1) first [] 1 rest

end OutputArranger.Pattern
