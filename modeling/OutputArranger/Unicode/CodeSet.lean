import OutputArranger.Unicode.PropertyTable
import OutputArranger.Unicode.CategoryTable
import OutputArranger.Unicode.ScriptTable
import OutputArranger.Unicode.CaseTable

/-!
# Sets of characters

A set of characters is the increasing list of the code points at which membership changes, the
first one being where it begins. Boolean operations are one merge of two such lists.
-/

namespace OutputArranger.Unicode

/-- The first code point past the last one. -/
def codeLimit : Nat := 0x110000

/-- The number of leading entries of an increasing array that are at most `c`, found between
`low` and `high` by halving, in at most `fuel` steps. -/
def countUpTo (bounds : Array Nat) (c : Nat) : Nat → Nat → Nat → Nat
  | 0, low, _ => low
  | fuel + 1, low, high =>
      if high ≤ low then low
      else
        let middle := (low + high) / 2
        if bounds.getD middle 0 ≤ c then countUpTo bounds c fuel (middle + 1) high
        else countUpTo bounds c fuel low middle

/-- Whether membership holds at `c`: an odd number of changes lie at or before it. -/
def insideBounds (bounds : Array Nat) (c : Nat) : Bool :=
  countUpTo bounds c 32 0 bounds.size % 2 == 1

/-- A set of code points. -/
structure CodeSet where
  bounds : Array Nat
deriving DecidableEq

namespace CodeSet

def empty : CodeSet := ⟨#[]⟩

def all : CodeSet := ⟨#[0, codeLimit]⟩

def range (first last : Nat) : CodeSet := ⟨#[first, last + 1]⟩

def single (c : Char) : CodeSet := range c.toNat c.toNat

def contains (s : CodeSet) (c : Char) : Bool := insideBounds s.bounds c.toNat

/-- Walks through the marks in order, toggling the side each belongs to, and notes where the
combined membership changes. -/
def walk (f : Bool → Bool → Bool) (inLeft inRight : Bool) :
    List (Nat × Bool) → List Nat
  | [] => []
  | (c, left) :: rest =>
      let l := if left then !inLeft else inLeft
      let r := if left then inRight else !inRight
      if f l r == f inLeft inRight then walk f l r rest else c :: walk f l r rest

/-- Drops pairs of equal neighbours, which change nothing. -/
def cancel : List Nat → List Nat → List Nat
  | seen, [] => seen.reverse
  | [], c :: rest => cancel [c] rest
  | d :: seen, c :: rest => if c = d then cancel seen rest else cancel (c :: d :: seen) rest

/-- The set of ranges in increasing order, each given by its first and its last code point. -/
def ofRanges (ranges : List (Nat × Nat)) : CodeSet :=
  ⟨(cancel [] (ranges.flatMap fun (first, last) => [first, last + 1])).toArray⟩

/-- The set of what `f` accepts, given membership in each of two sets. Nothing is accepted when
both are false. -/
def combine (f : Bool → Bool → Bool) (s t : CodeSet) : CodeSet :=
  let left := s.bounds.toList.map (·, true)
  let right := t.bounds.toList.map (·, false)
  let marks := List.merge left right (fun a b => decide (a.1 ≤ b.1))
  ⟨(cancel [] (walk f false false marks)).toArray⟩

def union (s t : CodeSet) : CodeSet := combine (· || ·) s t

def inter (s t : CodeSet) : CodeSet := combine (· && ·) s t

def diff (s t : CodeSet) : CodeSet := combine (fun a b => a && !b) s t

def symmDiff (s t : CodeSet) : CodeSet := combine (· != ·) s t

def complement (s : CodeSet) : CodeSet := diff all s

def unions (sets : List CodeSet) : CodeSet := sets.foldl union empty

/-- The set of a list of code points. -/
def ofCodes (codes : List Nat) : CodeSet :=
  let sorted := (codes.mergeSort (· ≤ ·)).eraseReps
  ⟨(cancel [] (sorted.flatMap fun c => [c, c + 1])).toArray⟩

/-- Whether all members are ASCII. -/
def isAscii (s : CodeSet) : Bool := s.bounds.all (· ≤ 128)

/-- The number of separate runs of members. -/
def runs (s : CodeSet) : Nat := (s.bounds.size + 1) / 2

/-- Where a table of changes names one of the given numbers, each entry being a code point times
`scale` plus a number. -/
def ofChanges (changes : Array Nat) (scale : Nat) (wanted : List Nat) : CodeSet :=
  let step := fun (state : Bool × List Nat) (entry : Nat) =>
    let inside := wanted.contains (entry % scale)
    if inside == state.1 then state else (inside, entry / scale :: state.2)
  let result := changes.foldl step (false, [])
  let bounds := if result.1 then codeLimit :: result.2 else result.2
  ⟨bounds.reverse.toArray⟩

/-- The characters of some general categories, given by their abbreviations. -/
def ofCategories (names : List String) : CodeSet :=
  ofChanges categoryChanges 32 (names.map categoryNames.idxOf)

/-- The characters of the script with a number. -/
def ofScript (number : Nat) : CodeSet := ofChanges scriptChanges 256 [number]

def words : CodeSet := ⟨wordBounds⟩

def digits : CodeSet := ⟨digitBounds⟩

def blanks : CodeSet := ⟨blankBounds⟩

/-- All code points of a run of case mappings, with their images. -/
def pairsOf (r : CaseRun) : List (Nat × Nat) :=
  (List.range ((r.last - r.first) / r.step + 1)).map fun i =>
    let c := r.first + i * r.step
    (c, (c + r.shift).toNat)

/-- Every character with a different folding, and that folding. -/
def foldingPairs : List (Nat × Nat) := foldingRuns.toList.flatMap pairsOf

/-- The set closed under simple case folding: with each character all that fold to the same. -/
def closeUnderCase (s : CodeSet) : CodeSet :=
  let has (c : Nat) : Bool := insideBounds s.bounds c
  let roots := ofCodes (foldingPairs.flatMap fun (c, d) => if has c || has d then [d] else [])
  let added := foldingPairs.flatMap fun (c, d) =>
    if insideBounds roots.bounds d then [c, d] else []
  union s (ofCodes added)

/-- The set closed under exchanging the cases of ASCII letters. -/
def closeUnderAsciiCase (s : CodeSet) : CodeSet :=
  let letters := (List.range 26).flatMap fun i =>
    if insideBounds s.bounds (65 + i) || insideBounds s.bounds (97 + i) then [65 + i, 97 + i]
    else []
  union s (ofCodes letters)

end CodeSet

/-- White space, as the standard defines it. -/
def isBlank (c : Char) : Bool := insideBounds blankBounds c.toNat

def isAlphabetic (c : Char) : Bool := insideBounds alphabeticBounds c.toNat

/-- Characters of words. -/
def isWord (c : Char) : Bool := insideBounds wordBounds c.toNat

/-- The number of the general category of a character. -/
def categoryNumber (c : Char) : Nat :=
  let count := countUpTo categoryChanges (c.toNat * 32 + 31) 32 0 categoryChanges.size
  categoryChanges.getD (count - 1) 0 % 32

/-- The abbreviation of the general category of a character. -/
def category (c : Char) : String := categoryNames.getD (categoryNumber c) "Cn"

/-- Numbers of any kind. -/
def isNumeric (c : Char) : Bool := ["Nd", "Nl", "No"].contains (category c)

end OutputArranger.Unicode
