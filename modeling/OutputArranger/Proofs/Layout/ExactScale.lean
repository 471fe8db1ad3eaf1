import Mathlib.Algebra.Order.Round
import Mathlib.Data.Rat.Floor
import Mathlib.Tactic.GCongr
import Mathlib.Tactic.Linarith
import Mathlib.Tactic.NormNum
import OutputArranger.Layout.Geometry

/-!
# The suitable scale without rounding

Read over the rational numbers, the scale that suits a display is a whole number of eighths: one for
each twelve dots per inch, to the nearest, halves upwards. It is 1 where the resolution is unknown
or too low for an eighth, and the largest scale there is where there would be too many eighths.
Above the low resolutions, a larger mode of the same display never gets a smaller scale.
-/

namespace OutputArranger.Layout

/-- Dots per inch, computed exactly. -/
def exactDotsPerInch (widthMm heightMm : Int) (m : Mode) : Rat :=
  dotsPerInchWith id widthMm heightMm m

/-- The scale that suits a display of this size in a mode, if nothing is rounded on the way to
it. -/
def exactScale (widthMm heightMm : Int) (m : Option Mode) : Scale :=
  autoScaleWith id widthMm heightMm m

/-- A mode whose sides are numbers of 32 bits and not negative. -/
structure HasSize (m : Mode) : Prop where
  width : 0 ≤ m.width ∧ m.width ≤ maxInt32
  height : 0 ≤ m.height ∧ m.height ≤ maxInt32

/-- The range of a computation in 64 bits. -/
def IsInt64 (i : Int) : Prop := -2 ^ 63 ≤ i ∧ i < 2 ^ 63

/-! ## The resolution -/

section Resolution

variable {widthMm heightMm : Int} {m n : Mode}

theorem exactDotsPerInch_of_unknown (hunknown : widthMm ≤ 0 ∨ heightMm ≤ 0) :
    exactDotsPerInch widthMm heightMm m = 0 := if_pos hunknown

theorem exactDotsPerInch_of_known (hwidth : 0 < widthMm) (hheight : 0 < heightMm) :
    exactDotsPerInch widthMm heightMm m =
      ((m.width : Rat) / widthMm * (254 / 10) + (m.height : Rat) / heightMm * (254 / 10)) / 2 := by
  have hknown : ¬(widthMm ≤ 0 ∨ heightMm ≤ 0) := by omega
  have hinch : millimetresPerInch = 254 / 10 := Rat.mkRat_eq_div 254 10
  rw [exactDotsPerInch, dotsPerInchWith, if_neg hknown]
  simp only [id_eq, hinch]

/-- A larger mode of the same display has no lower resolution. -/
theorem exactDotsPerInch_mono (hwidth : m.width ≤ n.width) (hheight : m.height ≤ n.height)
    (widthMm heightMm : Int) :
    exactDotsPerInch widthMm heightMm m ≤ exactDotsPerInch widthMm heightMm n := by
  by_cases hunknown : widthMm ≤ 0 ∨ heightMm ≤ 0
  · rw [exactDotsPerInch_of_unknown hunknown, exactDotsPerInch_of_unknown hunknown]
  · obtain ⟨hacross, hdown⟩ : 0 < widthMm ∧ 0 < heightMm := by omega
    have hacrossPos : (0 : Rat) < widthMm := Int.cast_pos.mpr hacross
    have hdownPos : (0 : Rat) < heightMm := Int.cast_pos.mpr hdown
    rw [exactDotsPerInch_of_known hacross hdown, exactDotsPerInch_of_known hacross hdown]
    gcongr

theorem exactDotsPerInch_nonneg (hwidth : 0 ≤ m.width) (hheight : 0 ≤ m.height)
    (widthMm heightMm : Int) : 0 ≤ exactDotsPerInch widthMm heightMm m := by
  have hempty : exactDotsPerInch widthMm heightMm (.blank m.id) = 0 := by
    by_cases hunknown : widthMm ≤ 0 ∨ heightMm ≤ 0
    · exact exactDotsPerInch_of_unknown hunknown
    · rw [exactDotsPerInch_of_known (by omega) (by omega)]
      simp [Mode.blank]
  exact hempty.symm.le.trans (exactDotsPerInch_mono hwidth hheight _ _)

/-- No resolution is higher than that of a mode with the longest sides on a square millimetre. -/
theorem exactDotsPerInch_le (hm : HasSize m) :
    exactDotsPerInch widthMm heightMm m ≤ maxInt32 * (254 / 10) := by
  by_cases hunknown : widthMm ≤ 0 ∨ heightMm ≤ 0
  · rw [exactDotsPerInch_of_unknown hunknown]
    norm_num [maxInt32]
  · obtain ⟨hacross, hdown⟩ : 0 < widthMm ∧ 0 < heightMm := by omega
    have along {pixels mm : Int} (hpixels : 0 ≤ pixels ∧ pixels ≤ maxInt32) (hmm : 0 < mm) :
        (pixels : Rat) / mm ≤ maxInt32 := by
      have hone : (1 : Rat) ≤ mm := Int.cast_one_le_of_pos hmm
      have hquotient : (pixels : Rat) / mm ≤ pixels := div_le_self (Int.cast_nonneg hpixels.1) hone
      exact hquotient.trans (Int.cast_le.mpr hpixels.2)
    have hwidth := along hm.width hacross
    have hheight := along hm.height hdown
    rw [exactDotsPerInch_of_known hacross hdown]
    linarith

end Resolution

/-! ## Twelves of dots -/

section Twelves

variable {dpi : Rat}

theorem truncate_eq_floor {r : Rat} (hr : 0 ≤ r) : truncate r = ⌊r⌋ := by
  rw [truncate, Int.tdiv_eq_ediv_of_nonneg (Rat.num_nonneg.mpr hr), Rat.floor_def']

theorem quantizedWith_id (hdpi : 0 ≤ dpi) : quantizedWith id dpi = round (dpi / 12) * 12 := by
  have hhalf : mkRat 1 2 = 1 / 2 := Rat.mkRat_eq_div 1 2
  have hsum : (0 : Rat) ≤ dpi / 12 + 1 / 2 := by linarith
  simp only [quantizedWith, id_eq, hhalf, truncate_eq_floor hsum, round_eq]

theorem round_twelfth_eq_zero (hdpi : 0 ≤ dpi) (hlow : dpi < 6) : round (dpi / 12) = 0 :=
  round_eq_zero_iff.mpr ⟨by linarith, by linarith⟩

theorem round_twelfth_pos (hdpi : 6 ≤ dpi) : 0 < round (dpi / 12) := by
  rw [round_eq, Int.floor_pos]
  linarith

theorem round_twelfth_mono {other : Rat} (hle : dpi ≤ other) :
    round (dpi / 12) ≤ round (other / 12) := by
  rw [round_eq, round_eq]
  exact Int.floor_le_floor (by linarith)

/-- The count of twelves and what is multiplied from it stay far inside 64 bits. -/
theorem isInt64_quantized (hdpi : 0 ≤ dpi) (hle : dpi ≤ maxInt32 * (254 / 10)) :
    IsInt64 (truncate (dpi / 12 + 1 / 2)) ∧ IsInt64 (quantizedWith id dpi) ∧
      IsInt64 (256 * quantizedWith id dpi) := by
  have hsum : (0 : Rat) ≤ dpi / 12 + 1 / 2 := by linarith
  have hlow : 0 ≤ round (dpi / 12) := by
    rw [round_eq]
    exact Int.floor_nonneg.mpr hsum
  have hhigh : round (dpi / 12) ≤ 2 ^ 33 := by
    have hfloor : (round (dpi / 12) : Rat) ≤ dpi / 12 + 1 / 2 := round_le_add_half _
    have hlarge : (round (dpi / 12) : Rat) ≤ (2 ^ 33 : Int) := by
      norm_num [maxInt32] at hle ⊢
      linarith
    exact Int.cast_le.mp hlarge
  rw [quantizedWith_id hdpi, truncate_eq_floor hsum, ← round_eq]
  unfold IsInt64
  omega

end Twelves

/-! ## The scale -/

/-- A positive number of twelves gives as many eighths, an eighth being 32 of 256. -/
theorem raw_scaleOfQuantized {k : Int} (hk : 0 < k) :
    (scaleOfQuantized (k * 12)).raw = min (32 * k) maxInt32 := by
  have heighths : (256 * (k * 12)).tdiv 96 = 32 * k := by
    rw [show 256 * (k * 12) = 32 * k * 96 by omega]
    exact Int.mul_tdiv_cancel _ (by decide)
  rw [scaleOfQuantized, if_neg (by omega), heighths]
  unfold minInt32 maxInt32
  dsimp only
  split <;> dsimp only <;> omega

variable {widthMm heightMm : Int} {m : Mode}

theorem exactScale_of_low (hwidth : 0 ≤ m.width) (hheight : 0 ≤ m.height)
    (hlow : exactDotsPerInch widthMm heightMm m < 6) :
    exactScale widthMm heightMm (some m) = .one := by
  have hdpi := exactDotsPerInch_nonneg hwidth hheight widthMm heightMm
  have hnone : quantizedWith id (exactDotsPerInch widthMm heightMm m) = 0 := by
    rw [quantizedWith_id hdpi, round_twelfth_eq_zero hdpi hlow, Int.zero_mul]
  unfold exactDotsPerInch at hnone
  simp only [exactScale, autoScaleWith, hnone]
  exact ite_self _

theorem raw_exactScale_of_high (hhigh : 6 ≤ exactDotsPerInch widthMm heightMm m) :
    (exactScale widthMm heightMm (some m)).raw =
      min (32 * round (exactDotsPerInch widthMm heightMm m / 12)) maxInt32 := by
  have hsome : exactDotsPerInch widthMm heightMm m ≠ 0 := by linarith
  have hscale : exactScale widthMm heightMm (some m) =
      scaleOfQuantized (quantizedWith id (exactDotsPerInch widthMm heightMm m)) := if_neg hsome
  rw [hscale, quantizedWith_id (by linarith), raw_scaleOfQuantized (round_twelfth_pos hhigh)]

theorem raw_exactScale (hwidth : 0 ≤ m.width) (hheight : 0 ≤ m.height) (widthMm heightMm : Int) :
    (exactScale widthMm heightMm (some m)).raw =
      if widthMm ≤ 0 ∨ heightMm ≤ 0 ∨ exactDotsPerInch widthMm heightMm m < 6 then 256
      else min (32 * round (exactDotsPerInch widthMm heightMm m / 12)) maxInt32 := by
  -- An unknown size is a case of a low resolution.
  have hcases : widthMm ≤ 0 ∨ heightMm ≤ 0 ∨ exactDotsPerInch widthMm heightMm m < 6 ↔
      exactDotsPerInch widthMm heightMm m < 6 := by
    rw [← or_assoc, or_iff_right_iff_imp]
    intro hunknown
    rw [exactDotsPerInch_of_unknown hunknown]
    norm_num
  rw [if_congr hcases rfl rfl]
  split
  · rename_i hlow
    rw [exactScale_of_low hwidth hheight hlow]
    rfl
  · rename_i hhigh
    exact raw_exactScale_of_high (not_lt.mp hhigh)

/-- The scale that suits a display, read over the rational numbers. It is 1 without a mode, without
a known size of the display, and below six dots per inch; otherwise it has an eighth for each twelve
dots per inch, to the nearest and halves upwards, but is no larger than scales can be. So it is
always positive, from six dots per inch on it does not shrink when the mode grows, and computing it
takes no integer out of 64 bits. -/
theorem exactScale_in_eighths (widthMm heightMm : Int) :
    (exactScale widthMm heightMm none).raw = 256 ∧
      ∀ m : Mode, HasSize m →
        ((exactScale widthMm heightMm (some m)).raw =
          if widthMm ≤ 0 ∨ heightMm ≤ 0 ∨ exactDotsPerInch widthMm heightMm m < 6 then 256
          else min (32 * round (exactDotsPerInch widthMm heightMm m / 12)) maxInt32) ∧
        0 < (exactScale widthMm heightMm (some m)).raw ∧
        (∀ n : Mode, m.width ≤ n.width → m.height ≤ n.height →
          6 ≤ exactDotsPerInch widthMm heightMm m →
            (exactScale widthMm heightMm (some m)).raw ≤
              (exactScale widthMm heightMm (some n)).raw) ∧
        IsInt64 (truncate (exactDotsPerInch widthMm heightMm m / 12 + 1 / 2)) ∧
        IsInt64 (quantizedWith id (exactDotsPerInch widthMm heightMm m)) ∧
        IsInt64 (256 * quantizedWith id (exactDotsPerInch widthMm heightMm m)) := by
  refine ⟨rfl, fun m hm => ?_⟩
  have hraw := raw_exactScale hm.width.1 hm.height.1 widthMm heightMm
  have hdpi := exactDotsPerInch_nonneg hm.width.1 hm.height.1 widthMm heightMm
  refine ⟨hraw, ?_, fun n hwidth hheight hhigh => ?_,
    isInt64_quantized hdpi (exactDotsPerInch_le hm)⟩
  · rw [hraw]
    split
    · decide
    · rename_i hknown
      have hpos := round_twelfth_pos (not_lt.mp fun hlow => hknown (.inr (.inr hlow)))
      unfold maxInt32
      omega
  · have hmono := exactDotsPerInch_mono hwidth hheight widthMm heightMm
    have htwelves := round_twelfth_mono hmono
    rw [raw_exactScale_of_high hhigh, raw_exactScale_of_high (hhigh.trans hmono)]
    omega

/-- A mode with as many pixels along each side. -/
def square (pixels : Int) : Mode := ⟨⟨1⟩, pixels, pixels, 60000, false⟩

theorem exactDotsPerInch_square (pixels : Int) :
    exactDotsPerInch 254 254 (square pixels) = pixels / 10 := by
  rw [exactDotsPerInch_of_known (by decide) (by decide)]
  simp only [square]
  norm_num
  ring

/-- A square display of ten inches. Sixty pixels along each side are half of a twelve of dots per
inch and give an eighth, and nine hundred are seven and a half and give eight. -/
theorem exactScale_in_eighths_tenInches :
    HasSize (square 60) ∧ HasSize (square 900) ∧ 6 ≤ exactDotsPerInch 254 254 (square 60) ∧
      (exactScale 254 254 (some (square 60))).raw = 32 ∧
      (exactScale 254 254 (some (square 900))).raw = 256 ∧
      (exactScale 254 254 (some (square 60))).raw ≤ (exactScale 254 254 (some (square 900))).raw ∧
      IsInt64 (256 * quantizedWith id (exactDotsPerInch 254 254 (square 900))) := by
  have hsmall : HasSize (square 60) := ⟨by decide, by decide⟩
  have hlarge : HasSize (square 900) := ⟨by decide, by decide⟩
  have hlow : exactDotsPerInch 254 254 (square 60) = 6 := by
    rw [exactDotsPerInch_square]
    norm_num
  have hhigh : exactDotsPerInch 254 254 (square 900) = 90 := by
    rw [exactDotsPerInch_square]
    norm_num
  obtain ⟨hsmallRaw, -, hmono, -⟩ := (exactScale_in_eighths 254 254).2 (square 60) hsmall
  obtain ⟨hlargeRaw, -, -, -, -, hfits⟩ := (exactScale_in_eighths 254 254).2 (square 900) hlarge
  refine ⟨hsmall, hlarge, hlow.ge, ?_, ?_, hmono (square 900) (by decide) (by decide) hlow.ge,
    hfits⟩
  · rw [hsmallRaw, hlow]
    decide +kernel
  · rw [hlargeRaw, hhigh]
    decide +kernel

end OutputArranger.Layout
