import OutputArranger.Head.Basic

/-!
# Sizes and scales

The resolution of a display in dots per inch, the scale that follows from it, and the logical size
of a mode once it is turned and scaled.

The resolution is computed in floating point. `rounding` stands for the rounding of each step, so
that the same formulas give the exact value when it is the identity.
-/

namespace OutputArranger.Layout

/-- Millimetres in an inch. -/
def millimetresPerInch : Rat := mkRat 254 10

/-- The mean of horizontal and vertical dots per inch, every step rounded; 0 when the physical
size is unknown. -/
def dotsPerInchWith (rounding : Rat → Rat) (widthMm heightMm : Int) (m : Mode) : Rat :=
  if widthMm ≤ 0 ∨ heightMm ≤ 0 then 0
  else
    let inch := rounding millimetresPerInch
    let along (pixels mm : Int) : Rat := rounding (rounding ((pixels : Rat) / (mm : Rat)) * inch)
    rounding (rounding (along m.width widthMm + along m.height heightMm) / 2)

/-- Dots per inch in floating point. -/
def dotsPerInch (widthMm heightMm : Int) (m : Mode) : Rat :=
  dotsPerInchWith Binary64.rounded widthMm heightMm m

/-- The integer part of a rational number, toward zero. -/
def truncate (r : Rat) : Int := r.num.tdiv r.den

/-- The resolution rounded to a multiple of twelve. -/
def quantizedWith (rounding : Rat → Rat) (dpi : Rat) : Int :=
  truncate (rounding (rounding (dpi / 12) + mkRat 1 2)) * 12

/-- The scale in 256ths for a quantized resolution, 96 dots per inch being a scale of one; too
large or too small a value becomes the largest. -/
def scaleOfQuantized (quantized : Int) : Scale :=
  if quantized = 0 then .one
  else
    let raw := (256 * quantized).tdiv 96
    if minInt32 ≤ raw ∧ raw ≤ maxInt32 then ⟨raw⟩ else ⟨maxInt32⟩

def autoScaleWith (rounding : Rat → Rat) (widthMm heightMm : Int) : Option Mode → Scale
  | none => .one
  | some m =>
      let dpi := dotsPerInchWith rounding widthMm heightMm m
      if dpi = 0 then .one else scaleOfQuantized (quantizedWith rounding dpi)

/-- The scale that suits a display of this size in a mode. -/
def autoScale (widthMm heightMm : Int) (m : Option Mode) : Scale :=
  autoScaleWith Binary64.rounded widthMm heightMm m

/-- One side of a mode divided by a positive scale, to the nearest integer. The quotient of
numbers of 32 bits is never so close below a half that floating point would round it up to it, so
whole numbers give the same result. -/
def scaledSide (pixels raw : Int) : Int := clampInt32 ((512 * pixels + raw).tdiv (2 * raw))

/-- The logical size of a mode. A scale that is not positive leaves the mode as it is, even when
it is turned. -/
def dimensions (m : Mode) (t : Transform) (s : Scale) : Int × Int :=
  if s.raw ≤ 0 then (m.width, m.height)
  else if t.isRotated then (scaledSide m.height s.raw, scaledSide m.width s.raw)
  else (scaledSide m.width s.raw, scaledSide m.height s.raw)

end OutputArranger.Layout
