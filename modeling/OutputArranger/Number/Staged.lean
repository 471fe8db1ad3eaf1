import OutputArranger.Number.Binary64

/-!
# Reading a decimal in stages

A quick way to read a decimal literal as a float: keep as many leading digits as fit into 64
bits, round them to a float, and multiply or divide by a rounded power of ten. Each stage
rounds, so a literal of many digits can come out one step off the nearest float.
-/

namespace OutputArranger.Staged

/-- The first digits of a literal, read as a number below 2 to the power 64, and the power of ten
by which the number has to be scaled. -/
structure Digits where
  significand : Nat
  exponent : Int
  /-- Whether a digit had to be left out. -/
  full : Bool
deriving DecidableEq

def maxSignificand : Nat := 18446744073709551615

/-- Whether one more digit still fits. -/
def fits (significand digit : Nat) : Bool := decide (significand * 10 + digit ≤ maxSignificand)

/-- Reads one digit before the point. -/
def Digits.pushWhole (d : Digits) (digit : Nat) : Digits :=
  if !d.full && fits d.significand digit then { d with significand := d.significand * 10 + digit }
  else { d with exponent := d.exponent + 1, full := true }

/-- Reads one digit after the point; digits past the first that does not fit are ignored. -/
def Digits.pushPlace (d : Digits) (stopped : Bool) (digit : Nat) : Digits × Bool :=
  if !stopped && fits d.significand digit then
    ({ d with significand := d.significand * 10 + digit, exponent := d.exponent - 1 }, false)
  else (d, true)

/-- The digits of a literal, whole part and places. -/
def digits (whole places : List Nat) : Digits :=
  let start := whole.foldl Digits.pushWhole ⟨0, 0, false⟩
  (places.foldl (fun (d, stopped) => Digits.pushPlace d stopped) (start, false)).1

/-- The rounded magnitude times or divided by the rounded power `10 ^ n`. -/
def scaleUp (x : Binary64) (n : Nat) : Binary64 :=
  Binary64.nearest false (x.magnitude * (Binary64.ofNat (Nat.pow 10 n)).magnitude)
    (Binary64.stepsPerOne * Binary64.stepsPerOne)

def scaleDown (x : Binary64) (n : Nat) : Binary64 :=
  Binary64.nearest false x.magnitude (Binary64.ofNat (Nat.pow 10 n)).magnitude

/-- The largest power of ten below infinity. -/
def maxPower : Nat := 308

/-- Divides by `10 ^ n`, by at most `10 ^ 308` at a time. -/
def shrink : Nat → Binary64 → Nat → Binary64
  | 0, x, _ => x
  | fuel + 1, x, n =>
      if n ≤ maxPower then scaleDown x n
      else if x.isZero then x
      else shrink fuel (scaleDown x maxPower) (n - maxPower)

/-- The float `significand * 10 ^ exponent`, without its sign; none when it is too large. -/
def toBinary64 (significand : Nat) (exponent : Int) : Option Binary64 :=
  let x := Binary64.ofNat significand
  match exponent with
  | .ofNat n =>
      if n ≤ maxPower then
        let y := scaleUp x n
        if y.isInfinite then none else some y
      else if x.isZero then some x
      else none
  | .negSucc n => some (shrink 8 x (n + 1))

end OutputArranger.Staged
