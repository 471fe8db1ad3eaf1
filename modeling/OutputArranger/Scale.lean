import OutputArranger.Number.Decimal
import OutputArranger.Number.Int32

/-!
# Output scales

A scale is a whole number of 256ths, as it travels to the compositor.
-/

namespace OutputArranger

/-- A scale in 256ths. -/
structure Scale where
  raw : Int
deriving DecidableEq

namespace Scale

def one : Scale := ⟨256⟩

/-- The nearest scale, halves away from zero; out of range it is the nearest bound, and what is no
number becomes 0. -/
def ofFloat (x : Binary64) : Scale := ⟨x.round256 minInt32 maxInt32⟩

def toFloat (s : Scale) : Binary64 := Binary64.nearest (decide (s.raw < 0)) s.raw.natAbs 256

/-- Three decimals, a tie going to the even digit. -/
def text (s : Scale) : String :=
  let thousandths := roundHalfEven (s.raw.natAbs * 1000) 256
  let places := toString (thousandths % 1000)
  (if s.raw < 0 then "-" else "") ++ toString (thousandths / 1000) ++ "." ++
    "".pushn '0' (3 - places.length) ++ places

end Scale

end OutputArranger
