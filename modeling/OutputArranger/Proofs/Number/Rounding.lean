import Mathlib.Algebra.Order.Field.Basic
import Mathlib.Algebra.Order.Field.Rat
import OutputArranger.Number.Binary64

/-!
# Rounding

The float nearest to a quotient depends on the value of the quotient only, and a finite float is
nearest to itself. Rounding a float to 256ths leaves something exactly of what is at least half of
one.
-/

namespace OutputArranger

/-! ## Quotients -/

theorem roundHalfEven_mul_right {k : Nat} (hk : 0 < k) (num den : Nat) :
    roundHalfEven (num * k) (den * k) = roundHalfEven num den := by
  have hmod : 2 * (num * k % (den * k)) = 2 * (num % den) * k := by
    rw [Nat.mul_mod_mul_right, Nat.mul_assoc]
  unfold roundHalfEven
  simp only [Nat.mul_div_mul_right num den hk, hmod, Nat.mul_lt_mul_right hk]

theorem roundHalfEven_mul_self {den : Nat} (hden : 0 < den) (n : Nat) :
    roundHalfEven (n * den) den = n := by
  unfold roundHalfEven
  simp only [Nat.mul_div_cancel n hden, Nat.mul_mod_left, Nat.mul_zero, hden, if_true]

namespace Binary64

variable {x : Binary64}

theorem stepsPerOne_pos : 0 < stepsPerOne := by
  unfold stepsPerOne
  generalize 1074 = exponent
  exact Nat.two_pow_pos exponent

theorem nearest_mul_right {k : Nat} (hk : 0 < k) (negative : Bool) (num den : Nat) :
    nearest negative (num * k) (den * k) = nearest negative num den := by
  have hscaled : num * k * stepsPerOne = num * stepsPerOne * k := Nat.mul_right_comm ..
  have hden (n : Nat) : den * k * n = den * n * k := Nat.mul_right_comm ..
  unfold nearest
  simp only [hscaled, hden, Nat.mul_div_mul_right _ _ hk, roundHalfEven_mul_right hk]

/-! ## Finite floats -/

/-- The digits of a float in base two, the leading one included. -/
def significand (x : Binary64) : Nat :=
  if x.exponent.val = 0 then x.fraction.val else fractions + x.fraction.val

theorem magnitude_eq (x : Binary64) : x.magnitude = x.significand * 2 ^ (x.exponent.val - 1) := by
  unfold magnitude significand
  split
  · rename_i hzero
    rw [hzero, Nat.zero_sub, Nat.pow_zero, Nat.mul_one]
  · rfl

theorem magnitude_eq_zero_iff : x.magnitude = 0 ↔ x.exponent.val = 0 ∧ x.fraction.val = 0 := by
  have hpower : 2 ^ (x.exponent.val - 1) ≠ 0 := (Nat.two_pow_pos _).ne'
  rw [magnitude_eq, Nat.mul_eq_zero, or_iff_left hpower]
  unfold significand fractions
  split <;> omega

theorem log2_magnitude (x : Binary64) : Nat.log2 x.magnitude - 52 = x.exponent.val - 1 := by
  have hfraction := x.fraction.isLt
  by_cases hzero : x.exponent.val = 0
  · have hmagnitude : x.magnitude = x.fraction.val := by rw [magnitude, if_pos hzero]
    by_cases hnone : x.fraction.val = 0
    · rw [hmagnitude, hnone, Nat.log2_zero, hzero]
    · have hsmall := (Nat.log2_lt hnone).mpr (show x.fraction.val < 2 ^ 52 from hfraction)
      rw [hmagnitude, hzero]
      omega
  · have hlog : Nat.log2 x.magnitude = 52 + (x.exponent.val - 1) := by
      have hnonzero : x.magnitude ≠ 0 := fun h => hzero (magnitude_eq_zero_iff.mp h).1
      have hpower := Nat.two_pow_pos (x.exponent.val - 1)
      rw [Nat.log2_eq_iff hnonzero, Nat.add_right_comm, Nat.pow_add, Nat.pow_add, magnitude_eq,
        significand, if_neg hzero]
      unfold fractions
      exact ⟨Nat.mul_le_mul_right _ (by omega), Nat.mul_lt_mul_of_pos_right (by omega) hpower⟩
    omega

/-- The rank of a finite float is its exponent and its fraction, read as one number. -/
theorem ofRank_rank (hx : x.isFinite = true) :
    ofRank x.negative (x.exponent.val * fractions + x.fraction.val) = x := by
  have hfraction := x.fraction.isLt
  have hexponent := x.exponent.isLt
  have hfinite : x.exponent.val ≠ 2047 := by simpa [isFinite] using hx
  have hrank : min (x.exponent.val * fractions + x.fraction.val) (2047 * fractions) =
      x.exponent.val * fractions + x.fraction.val := by
    unfold fractions
    omega
  have hfirst : Fin.ofNat 2048 ((x.exponent.val * fractions + x.fraction.val) / fractions) =
      x.exponent := by
    apply Fin.ext
    rw [Fin.val_ofNat]
    unfold fractions
    omega
  have hsecond : Fin.ofNat 4503599627370496 (x.exponent.val * fractions + x.fraction.val) =
      x.fraction := by
    apply Fin.ext
    rw [Fin.val_ofNat]
    unfold fractions
    omega
  rw [ofRank]
  simp only [hrank, hfirst, hsecond]

/-- A finite float is the one that is nearest to its value. -/
theorem nearest_magnitude (hx : x.isFinite = true) :
    nearest x.negative x.magnitude stepsPerOne = x := by
  have hpower := Nat.mul_pos stepsPerOne_pos (Nat.two_pow_pos (x.exponent.val - 1))
  have hexact : x.magnitude * stepsPerOne =
      x.significand * (stepsPerOne * 2 ^ (x.exponent.val - 1)) := by
    rw [magnitude_eq, Nat.mul_right_comm, Nat.mul_assoc]
  have hrank : (x.exponent.val - 1) * fractions + x.significand =
      x.exponent.val * fractions + x.fraction.val := by
    unfold significand fractions
    split <;> omega
  unfold nearest
  simp only [Nat.mul_div_cancel _ stepsPerOne_pos, log2_magnitude]
  rw [hexact]
  simp only [Nat.pow_eq, roundHalfEven_mul_self hpower, hrank]
  exact ofRank_rank hx

/-! ## Rounding to 256ths -/

theorem stepsPerOne_le_of_isInfinite (hx : x.isInfinite = true) : stepsPerOne ≤ x.magnitude := by
  rw [isInfinite, Bool.and_eq_true, beq_iff_eq] at hx
  have hfactor : 0 < fractions + x.fraction.val := Nat.add_pos_left (by decide) _
  have hexponent : 1074 ≤ x.exponent.val - 1 := by omega
  rw [magnitude, if_neg (by omega)]
  unfold stepsPerOne
  generalize 1074 = exponent at hexponent ⊢
  exact Nat.le_trans (Nat.pow_le_pow_right Nat.two_pos hexponent) (Nat.le_mul_of_pos_left _ hfactor)

theorem steps_of_negative (hx : x.negative = true) : x.steps = -(x.magnitude : Int) := by
  rw [steps, hx, if_pos rfl]

theorem steps_of_not_negative (hx : x.negative = false) : x.steps = (x.magnitude : Int) := by
  rw [steps, hx, if_neg (by decide)]

/-- Rounding to 256ths leaves something exactly of what is at least half of one. -/
theorem round256_pos_iff {low high : Int} (hlow : low < 0) (hhigh : 0 < high) :
    0 < x.round256 low high ↔ x.isNaN = false ∧ (stepsPerOne : Int) ≤ 512 * x.steps := by
  have hone := stepsPerOne_pos
  have hsize : 0 < (512 * x.magnitude + stepsPerOne) / (2 * stepsPerOne) ↔
      stepsPerOne ≤ 512 * x.magnitude := by
    rw [Nat.div_pos_iff]
    omega
  unfold round256
  generalize (512 * x.magnitude + stepsPerOne) / (2 * stepsPerOne) = size at hsize ⊢
  cases hnan : x.isNaN with
  | true =>
      rw [if_pos rfl]
      exact iff_of_false (Int.lt_irrefl 0) fun h => Bool.noConfusion h.1
  | false =>
      rw [if_neg (by decide), and_iff_right rfl]
      cases hsign : x.negative with
      | true =>
          rw [steps_of_negative hsign]
          simp only [if_true]
          split <;> omega
      | false =>
          rw [steps_of_not_negative hsign]
          simp only [Bool.false_eq_true, if_false]
          split
          · rename_i hinfinite
            have hlarge := stepsPerOne_le_of_isInfinite hinfinite
            omega
          · omega

theorem round256_nonneg {low high : Int} (hhigh : 0 ≤ high) (hx : x.isNonPositive = false) :
    0 ≤ x.round256 low high := by
  unfold round256
  generalize (512 * x.magnitude + stepsPerOne) / (2 * stepsPerOne) = size
  split
  · exact Int.le_refl 0
  · rename_i hnan
    have hsign : x.negative = false := by
      by_contra hsign
      rw [Bool.not_eq_false] at hsign
      have hsteps := steps_of_negative hsign
      simp [isNonPositive, hnan] at hx
      omega
    simp only [hsign, Bool.false_eq_true, if_false]
    split
    · exact hhigh
    · omega

theorem rounded_nonneg {r : Rat} (hr : 0 ≤ r) : 0 ≤ rounded r := by
  have hsign : (ofRat r).negative = false := decide_eq_false (not_lt.mpr hr)
  have hsteps : 0 ≤ (ofRat r).steps := by
    rw [steps_of_not_negative hsign]
    exact Int.natCast_nonneg _
  rw [rounded, toRat, Rat.mkRat_eq_div]
  exact div_nonneg (Int.cast_nonneg hsteps) (Nat.cast_nonneg _)

end Binary64

end OutputArranger
