import OutputArranger.Unicode.CodeSet

/-!
# Regular expressions

An expression either matches somewhere in a text or it does not: nothing else is asked of it. So
its meaning is a map on sets of positions, from where a match may begin to where it may end, and
there is no search order and no backtracking.
-/

namespace OutputArranger

open Unicode

/-- Conditions on the place between two characters. -/
inductive Place where
  | textStart
  | textEnd
  | lineStart
  | lineEnd
  /-- Lines ending in a carriage return, a line feed or both. -/
  | anyLineStart
  | anyLineEnd
  | wordBoundary (ascii : Bool)
  | notWordBoundary (ascii : Bool)
  | wordStart (ascii : Bool)
  | wordEnd (ascii : Bool)
  /-- No word character before. -/
  | wordStartHalf (ascii : Bool)
  /-- No word character after. -/
  | wordEndHalf (ascii : Bool)
deriving DecidableEq

/-- ASCII characters of words. -/
def isAsciiWord (c : Char) : Bool := c.isAlphanum || c = '_'

/-- Whether a character, if there is one, belongs to a word. -/
def inWord (ascii : Bool) : Option Char → Bool
  | none => false
  | some c => if ascii then isAsciiWord c else isWord c

/-- Whether a condition holds between the character before and the character after. -/
def Place.holds (before after : Option Char) : Place → Bool
  | .textStart => before.isNone
  | .textEnd => after.isNone
  | .lineStart => before.isNone || before = some '\n'
  | .lineEnd => after.isNone || after = some '\n'
  | .anyLineStart =>
      before.isNone || before = some '\n' || (before = some '\r' && after ≠ some '\n')
  | .anyLineEnd =>
      after.isNone || after = some '\r' || (after = some '\n' && before ≠ some '\r')
  | .wordBoundary ascii => inWord ascii before != inWord ascii after
  | .notWordBoundary ascii => inWord ascii before == inWord ascii after
  | .wordStart ascii => !inWord ascii before && inWord ascii after
  | .wordEnd ascii => inWord ascii before && !inWord ascii after
  | .wordStartHalf ascii => !inWord ascii before
  | .wordEndHalf ascii => !inWord ascii after

inductive Expression where
  | empty
  | one (set : CodeSet)
  | place (condition : Place)
  | seq (first second : Expression)
  | alt (left right : Expression)
  /-- At least `least` times, and at most `most` times if that is given. -/
  | many (body : Expression) (least : Nat) (most : Option Nat)
deriving DecidableEq

namespace Expression

/-- A set of positions in a text, one flag for each position from the start to the end. -/
abbrev Positions := List Bool

/-- Positions after one character of the set. -/
def advance (set : CodeSet) : List Char → Positions → Positions
  | c :: text, here :: there => (here && set.contains c) :: advance set text there
  | _, _ => []

/-- Positions at which a condition holds. -/
def keep (condition : Place) : Option Char → List Char → Positions → Positions
  | before, c :: text, here :: there =>
      (here && condition.holds before (some c)) :: keep condition (some c) text there
  | before, [], here :: _ => [here && condition.holds before none]
  | _, _, [] => []

def either (s t : Positions) : Positions := List.zipWith (· || ·) s t

/-- Applies `f` `count` times. -/
def times (f : Positions → Positions) : Nat → Positions → Positions
  | 0, s => s
  | count + 1, s => times f count (f s)

/-- All positions reached by applying `f` at most `count` times. It stops early where nothing new
is reached. -/
def upTo (f : Positions → Positions) : Nat → Positions → Positions
  | 0, s => s
  | count + 1, s =>
      let next := either s (f s)
      if next = s then s else upTo f count next

/-- Where a match of the expression may end, given where it may begin. -/
def ends (text : List Char) : Expression → Positions → Positions
  | .empty, s => s
  | .one set, s => false :: advance set text s
  | .place condition, s => keep condition none text s
  | .seq a b, s => ends text b (ends text a s)
  | .alt a b, s => either (ends text a s) (ends text b s)
  | .many body least most, s =>
      let reached := times (ends text body) least s
      match most with
      | none => upTo (ends text body) (text.length + 1) reached
      | some m => upTo (ends text body) (m - least) reached

/-- Whether the expression matches somewhere in the text. -/
def matchesIn (e : Expression) (text : List Char) : Bool :=
  (ends text e (List.replicate (text.length + 1) true)).any id

/-- An estimate of the room that a compiled expression takes, in bytes. -/
def room : Expression → Nat
  | .empty => 0
  | .one set => if set.isAscii then 24 + 8 * set.runs else 60 * set.runs + 100
  | .place _ => 24
  | .seq a b => room a + room b
  | .alt a b => room a + room b + 32
  | .many body least most =>
      match most with
      | none => room body * max 1 least + 32
      | some m => (room body + 32) * max m least

end Expression

end OutputArranger
