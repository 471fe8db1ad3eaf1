import OutputArranger.Number.Binary64

/-!
# Decimal text of floats

A float is written with the fewest decimal digits that read back as the same float. The digits
are found by trying one digit, then two, and so on, and reading each candidate back; how they
are laid out (a point, trailing zeros, an exponent) is the choice of each output format.
-/

namespace OutputArranger

/-- The number `± coefficient * 10 ^ exponent`. -/
structure Decimal where
  negative : Bool
  coefficient : Nat
  exponent : Int
deriving DecidableEq

namespace Decimal

/-- Exponents past this are as good as infinite: no coefficient of sensible length brings the
value back into the range of floats. -/
def exponentLimit : Nat := 4000

/-- The number of decimal digits of a coefficient. -/
def digitCount (n : Nat) : Nat := n.repr.length

/-- The nearest float. An exponent far out of range is answered without computing the power. -/
def toBinary64 (d : Decimal) : Binary64 :=
  let top := (digitCount d.coefficient : Int) + d.exponent
  if d.coefficient = 0 then Binary64.ofRank d.negative 0
  else if top < -exponentLimit then Binary64.ofRank d.negative 0
  else if (exponentLimit : Int) < top then Binary64.infinity d.negative
  else match d.exponent with
    | .ofNat e => Binary64.nearest d.negative (d.coefficient * Nat.pow 10 e) 1
    | .negSucc e => Binary64.nearest d.negative d.coefficient (Nat.pow 10 (e + 1))

/-- The exponent `e` with `10 ^ e ≤ num / den < 10 ^ (e + 1)`, for a positive quotient that is
not below the smallest float. -/
def leadingExponent (num den : Nat) : Int :=
  (digitCount (num * Nat.pow 10 400 / den) : Int) - 401

/-- The two neighbours of `num / den` on the grid of multiples of `10 ^ exponent`. -/
def neighbours (num den : Nat) (exponent : Int) : Nat × Nat :=
  let (n, d) := match exponent with
    | .ofNat e => (num, den * Nat.pow 10 e)
    | .negSucc e => (num * Nat.pow 10 (e + 1), den)
  let low := n / d
  if n % d = 0 then (low, low)
  else if 2 * (n % d) < d then (low, low + 1)
  else if 2 * (n % d) = d ∧ low % 2 = 0 then (low, low + 1)
  else (low + 1, low)

/-- Drops trailing zeros of the coefficient, at most `fuel` of them. -/
def trim : Nat → Decimal → Decimal
  | 0, d => d
  | fuel + 1, d =>
      if d.coefficient ≠ 0 ∧ d.coefficient % 10 = 0 then
        trim fuel { d with coefficient := d.coefficient / 10, exponent := d.exponent + 1 }
      else d

/-- The candidate on the grid with `digits` digits that reads back as `x`, the nearer neighbour
being tried first. -/
def candidate? (x : Binary64) (lead : Int) (digits : Nat) : Option Decimal :=
  let exponent := lead - digits + 1
  let (near, far) := neighbours x.magnitude Binary64.stepsPerOne exponent
  let readsBack (d : Decimal) : Bool := d.toBinary64 = x
  [near, far].map (⟨x.negative, ·, exponent⟩) |>.find? readsBack

/-- The exact decimal expansion of a finite float. -/
def exact (x : Binary64) : Decimal :=
  ⟨x.negative, x.magnitude * Nat.pow 5 1074, -1074⟩

/-- The shortest decimal that reads back as the finite float `x`; of several of that length, the
nearest one. -/
def ofBinary64 (x : Binary64) : Decimal :=
  if x.magnitude = 0 then ⟨x.negative, 0, 0⟩
  else
    let lead := leadingExponent x.magnitude Binary64.stepsPerOne
    match (List.range' 1 17).findSome? (candidate? x lead) with
    | some d => trim 17 d
    | none => exact x

/-- The digits with a point and as many zeros as it takes, never an exponent. A whole number has
no point. -/
def positional (d : Decimal) : String :=
  let digits := d.coefficient.repr
  let body := match d.exponent with
    | .ofNat e => if d.coefficient = 0 then "0" else digits ++ "".pushn '0' e
    | .negSucc e =>
        let places := e + 1
        if digits.length ≤ places then
          "0." ++ "".pushn '0' (places - digits.length) ++ digits
        else
          String.ofList (digits.toList.take (digits.length - places)) ++ "." ++
            String.ofList (digits.toList.drop (digits.length - places))
  if d.negative then "-" ++ body else body

/-- One digit, a point, the other digits and an exponent. -/
def scientific (d : Decimal) : String :=
  let digits := d.coefficient.repr.toList
  let power := d.exponent + digits.length - 1
  let body := match digits with
    | [] => "0"
    | [c] => String.ofList [c]
    | c :: rest => String.ofList (c :: '.' :: rest)
  (if d.negative then "-" else "") ++ body ++ "e" ++ toString power

end Decimal

namespace Binary64

/-- The text in running prose: never an exponent, and no point in a whole number. -/
def plain (x : Binary64) : String :=
  if x.isNaN then "NaN"
  else if x.isInfinite then if x.negative then "-inf" else "inf"
  else (Decimal.ofBinary64 x).positional

/-- The finite value in positional form, always with a point. -/
def pointed (x : Binary64) : String :=
  let d := Decimal.ofBinary64 x
  if 0 ≤ d.exponent then d.positional ++ ".0" else d.positional

/-- The finite value as JSON writers lay it out: positional while the point falls within
sixteen digits or at most four zeros lead, scientific otherwise. -/
def compact (x : Binary64) : String :=
  let d := Decimal.ofBinary64 x
  let point := d.exponent + d.coefficient.repr.length
  if d.coefficient = 0 then x.pointed
  else if 16 < point ∨ point ≤ -5 then d.scientific
  else x.pointed

end Binary64

end OutputArranger
