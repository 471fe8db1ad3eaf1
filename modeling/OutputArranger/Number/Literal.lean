import OutputArranger.Number.Decimal

/-!
# Float literals

Floats as people write them: digits with or without a point and an exponent, or one of the words
for an infinity and for what is no number, in either case of letters. A literal that is too large
is infinite.
-/

namespace OutputArranger.Literal

/-- A literal without its sign. -/
def splitSign : List Char → Bool × List Char
  | '-' :: rest => (true, rest)
  | '+' :: rest => (false, rest)
  | cs => (false, cs)

/-- The number that digits stand for. -/
def digitsValue (cs : List Char) : Nat :=
  cs.foldl (fun n c => n * 10 + (c.toNat - '0'.toNat)) 0

/-- The exponent behind its mark; none stands for zero. -/
def exponent? : List Char → Option Int
  | [] => some 0
  | _ :: power =>
      let (negative, digits) := splitSign power
      if digits ≠ [] ∧ digits.all Char.isDigit then
        some (if negative then -(digitsValue digits : Int) else digitsValue digits)
      else none

/-- A literal in digits, its sign apart. -/
def decimal? (negative : Bool) (cs : List Char) : Option Decimal := do
  let isMark (c : Char) : Bool := c = 'e' || c = 'E'
  let mantissa := cs.takeWhile (!isMark ·)
  let exponent ← exponent? (cs.dropWhile (!isMark ·))
  let whole := mantissa.takeWhile (· ≠ '.')
  let places := (mantissa.dropWhile (· ≠ '.')).drop 1
  let digits := whole ++ places
  if digits ≠ [] ∧ digits.all Char.isDigit then
    some ⟨negative, digitsValue digits, exponent - places.length⟩
  else none

/-- The float of a literal. -/
def float? (cs : List Char) : Option Binary64 :=
  let (negative, body) := splitSign cs
  let word := String.ofList (body.map Char.toLower)
  if word = "inf" ∨ word = "infinity" then some (.infinity negative)
  else if word = "nan" then some { Binary64.nan with negative }
  else (decimal? negative body).map Decimal.toBinary64

end OutputArranger.Literal
