/-!
# Output transforms

The eight ways in which a picture can be turned and mirrored.
-/

namespace OutputArranger

inductive Transform where
  | normal
  | rotate90
  | rotate180
  | rotate270
  | flipped
  | flipped90
  | flipped180
  | flipped270
deriving DecidableEq

namespace Transform

/-- All transforms, in the order of their numbers on the wire. -/
def all : List Transform :=
  [.normal, .rotate90, .rotate180, .rotate270, .flipped, .flipped90, .flipped180, .flipped270]

def name : Transform → String
  | .normal => "normal"
  | .rotate90 => "90"
  | .rotate180 => "180"
  | .rotate270 => "270"
  | .flipped => "flipped"
  | .flipped90 => "flipped-90"
  | .flipped180 => "flipped-180"
  | .flipped270 => "flipped-270"

/-- The transform of a name; names are case sensitive. -/
def ofName? (s : String) : Option Transform := all.find? fun t => t.name = s

theorem ofName?_name (t : Transform) : ofName? t.name = some t := by
  cases t <;> decide

/-- The number that stands for the transform on the wire. -/
def code : Transform → Nat
  | .normal => 0
  | .rotate90 => 1
  | .rotate180 => 2
  | .rotate270 => 3
  | .flipped => 4
  | .flipped90 => 5
  | .flipped180 => 6
  | .flipped270 => 7

def ofCode? (n : Nat) : Option Transform := all[n]?

theorem ofCode?_code (t : Transform) : ofCode? t.code = some t := by cases t <;> rfl

/-- Width and height trade places under these transforms. -/
def isRotated : Transform → Bool
  | .rotate90 | .rotate270 | .flipped90 | .flipped270 => true
  | _ => false

end Transform

end OutputArranger
