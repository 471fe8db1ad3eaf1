/-!
# Binary floating point numbers, exactly

A value is the three fields of the 64-bit interchange format. Every finite value is a whole
number of the smallest positive step, 2 to the power -1074, so comparison is comparison of
integers and rounding a fraction is one division: nothing here relies on machine arithmetic.
-/

namespace OutputArranger

/-- The nearest integer to `num / den`, a half going to the even neighbour. -/
def roundHalfEven (num den : Nat) : Nat :=
  let below := num / den
  let twice := 2 * (num % den)
  if twice < den then below
  else if den < twice then below + 1
  else if below % 2 = 0 then below
  else below + 1

/-- The sign, the biased exponent and the trailing significand of a 64-bit float. -/
structure Binary64 where
  negative : Bool
  exponent : Fin 2048
  fraction : Fin 4503599627370496
deriving DecidableEq

namespace Binary64

/-- The number of fractions that share an exponent. -/
abbrev fractions : Nat := 4503599627370496

/-- How many smallest steps make one. -/
def stepsPerOne : Nat := Nat.pow 2 1074

/-- The largest exponent is kept for infinities and for what is no number at all. -/
def isNaN (x : Binary64) : Bool := x.exponent.val == 2047 && x.fraction.val != 0

def isInfinite (x : Binary64) : Bool := x.exponent.val == 2047 && x.fraction.val == 0

def isFinite (x : Binary64) : Bool := x.exponent.val != 2047

/-- The magnitude in smallest steps. The infinities come out just above every finite value. -/
def magnitude (x : Binary64) : Nat :=
  if x.exponent.val = 0 then x.fraction.val
  else (fractions + x.fraction.val) * Nat.pow 2 (x.exponent.val - 1)

/-- The value in smallest steps. Both zeros give 0. -/
def steps (x : Binary64) : Int :=
  if x.negative then -(x.magnitude : Int) else x.magnitude

/-- Numeric equality: the zeros are equal and what is no number equals nothing. -/
def same (x y : Binary64) : Bool :=
  !x.isNaN && !y.isNaN && x.steps == y.steps

/-- Numeric order; false as soon as one side is no number. -/
def below (x y : Binary64) : Bool :=
  !x.isNaN && !y.isNaN && decide (x.steps < y.steps)

/-- Strictly greater than zero. -/
def isPositive (x : Binary64) : Bool := !x.isNaN && decide (0 < x.steps)

/-- Zero or less; false of what is no number. -/
def isNonPositive (x : Binary64) : Bool := !x.isNaN && decide (x.steps ≤ 0)

def isZero (x : Binary64) : Bool := x.magnitude == 0

/-- The value of rank `rank` among the non-negative ones, counted from zero; infinity beyond the
last finite one. The rank of a value is its exponent and fraction read as one number. -/
def ofRank (negative : Bool) (rank : Nat) : Binary64 :=
  let rank := min rank (2047 * fractions)
  { negative
    exponent := Fin.ofNat 2048 (rank / fractions)
    fraction := Fin.ofNat 4503599627370496 rank }

/-- The float nearest to `num / den`, of two equally near the one with the even fraction. -/
def nearest (negative : Bool) (num den : Nat) : Binary64 :=
  let scaled := num * stepsPerOne
  let shift := Nat.log2 (scaled / den) - 52
  ofRank negative (shift * fractions + roundHalfEven scaled (den * Nat.pow 2 shift))

/-- The float nearest to a rational number. -/
def ofRat (r : Rat) : Binary64 := nearest (decide (r < 0)) r.num.natAbs r.den

def ofInt (i : Int) : Binary64 := nearest (decide (i < 0)) i.natAbs 1

def ofNat (n : Nat) : Binary64 := nearest false n 1

/-- The exact value of a finite float. -/
def toRat (x : Binary64) : Rat := mkRat x.steps stepsPerOne

/-- A rational number rounded to the precision of floats. -/
def rounded (r : Rat) : Rat := (ofRat r).toRat

def infinity (negative : Bool) : Binary64 := ⟨negative, 2047, 0⟩

/-- The representative of what is no number. -/
def nan : Binary64 := ⟨false, 2047, 2251799813685248⟩

/-- Rounds `256 * x` to the nearest integer, halves going away from zero, and confines the
result to `low ≤ · ≤ high`. What is no number gives 0. -/
def round256 (low high : Int) (x : Binary64) : Int :=
  if x.isNaN then 0
  else if x.isInfinite then if x.negative then low else high
  else
    let size := (512 * x.magnitude + stepsPerOne) / (2 * stepsPerOne)
    max low (min high (if x.negative then -(size : Int) else size))

end Binary64

end OutputArranger
