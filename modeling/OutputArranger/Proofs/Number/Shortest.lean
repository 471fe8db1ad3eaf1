import OutputArranger.Number.Decimal
import OutputArranger.Proofs.Number.Rounding

/-!
# The shortest decimal of a float

Which float a decimal stands for depends on the value of the decimal only, however many zeros its
coefficient ends in. The decimal that is written for a finite float stands for that float.
-/

namespace OutputArranger.Decimal

open Binary64 (nearest nearest_mul_right stepsPerOne)

variable {negative : Bool} {c : Nat} {e : Int} {x : Binary64}

/-! ## Zeros at the end -/

theorem digitCount_mul_ten (hc : c ≠ 0) : digitCount (c * 10) = digitCount c + 1 := by
  rw [digitCount, Nat.repr_of_ge (by omega), Nat.mul_div_cancel c (by decide), String.length_append,
    String.length_singleton, digitCount]

theorem toBinary64_zero : toBinary64 ⟨negative, 0, e⟩ = Binary64.ofRank negative 0 := by
  unfold toBinary64
  exact if_pos rfl

/-- A zero at the end of the coefficient is one in the exponent. -/
theorem toBinary64_mul_ten (negative : Bool) (c : Nat) (e : Int) :
    toBinary64 ⟨negative, c * 10, e⟩ = toBinary64 ⟨negative, c, e + 1⟩ := by
  by_cases hc : c = 0
  · rw [hc, Nat.zero_mul, toBinary64_zero, toBinary64_zero]
  · have htop : ((digitCount (c * 10) : Nat) : Int) + e = (digitCount c : Int) + (e + 1) := by
      rw [digitCount_mul_ten hc]
      omega
    unfold toBinary64
    simp only [htop, Nat.mul_eq_zero, hc, OfNat.ofNat_ne_zero, or_self, if_false]
    split
    · rfl
    split
    · rfl
    rcases e with n | _ | n
    · have hpower : c * 10 * Nat.pow 10 n = c * Nat.pow 10 (n + 1) := by
        rw [Nat.pow_eq, Nat.pow_eq, Nat.pow_succ, Nat.mul_assoc, Nat.mul_comm 10]
      exact congrArg (nearest negative · 1) hpower
    · exact (nearest_mul_right (by decide) negative c 1).trans
        (congrArg (nearest negative · 1) (Nat.mul_one c).symm)
    · have hpower : Nat.pow 10 (n + 1 + 1) = Nat.pow 10 (n + 1) * 10 := rfl
      show nearest negative (c * 10) (Nat.pow 10 (n + 1 + 1)) =
        nearest negative c (Nat.pow 10 (n + 1))
      rw [hpower]
      exact nearest_mul_right (by decide) negative c _

theorem toBinary64_mul_pow (negative : Bool) (c : Nat) (e : Int) (n : Nat) :
    toBinary64 ⟨negative, c * 10 ^ n, e⟩ = toBinary64 ⟨negative, c, e + n⟩ := by
  induction n generalizing e with
  | zero => simp
  | succ n ih =>
      rw [Nat.pow_succ, ← Nat.mul_assoc, toBinary64_mul_ten, ih]
      congr 2
      omega

theorem toBinary64_trim (fuel : Nat) (d : Decimal) : (trim fuel d).toBinary64 = d.toBinary64 := by
  induction fuel generalizing d with
  | zero => rfl
  | succ fuel ih =>
      unfold trim
      split
      · rename_i hzero
        rw [ih, ← toBinary64_mul_ten, Nat.div_mul_cancel (Nat.dvd_of_mod_eq_zero hzero.2)]
      · rfl

/-! ## Reading back -/

theorem digitCount_le {k : Nat} (hk : 0 < k) (hc : c < 10 ^ k) : digitCount c ≤ k :=
  (Nat.length_repr_le_iff hk).mpr hc

theorem digitCount_eq {k : Nat} (hk : 0 < k) (hlow : 10 ^ k ≤ c) (hhigh : c < 10 ^ (k + 1)) :
    digitCount c = k + 1 := by
  have hmost := digitCount_le (Nat.succ_pos k) hhigh
  have hleast : ¬ digitCount c ≤ k := by
    rw [digitCount, Nat.length_repr_le_iff hk]
    omega
  omega

theorem magnitude_lt {n : Nat} (hx : x.exponent.val - 1 ≤ n) : x.magnitude < 2 ^ (53 + n) := by
  have hsignificand : x.significand < 2 ^ 53 := by
    have hfraction := x.fraction.isLt
    unfold Binary64.significand Binary64.fractions
    split <;> omega
  rw [Binary64.magnitude_eq, Nat.pow_add]
  exact Nat.mul_lt_mul_of_lt_of_le hsignificand (Nat.pow_le_pow_right Nat.two_pos hx)
    (Nat.two_pow_pos n)

theorem mul_five_pow_lt {n : Nat} (hc : c < 2 ^ n) (k : Nat) : c * Nat.pow 5 k < 10 ^ (n + k) := by
  rw [Nat.pow_add]
  exact Nat.mul_lt_mul_of_lt_of_le (Nat.lt_of_lt_of_le hc (Nat.pow_le_pow_left (by decide) n))
    (Nat.pow_le_pow_left (by decide) k) (Nat.pow_pos (by decide))

/-- A decimal with places that is not too long is rounded to the nearest float. -/
theorem toBinary64_negSucc {n : Nat} (hc : c ≠ 0) (hlength : digitCount c ≤ exponentLimit)
    (hn : n < exponentLimit) :
    toBinary64 ⟨negative, c, .negSucc n⟩ = nearest negative c (Nat.pow 10 (n + 1)) := by
  unfold toBinary64
  simp only [hc, if_false]
  rw [if_neg (by omega), if_neg (by omega)]

/-- A quotient by a power of two has as many places as the power. -/
theorem toBinary64_halved {k n p : Nat} (hp : n + 1 = p) (hc : c ≠ 0) (hsmall : c < 2 ^ k)
    (hlength : k + p ≤ exponentLimit) :
    toBinary64 ⟨negative, c * Nat.pow 5 p, .negSucc n⟩ = nearest negative c (Nat.pow 2 p) := by
  have hfive : 0 < Nat.pow 5 p := Nat.pow_pos (by decide)
  have hten : Nat.pow 10 p = Nat.pow 2 p * Nat.pow 5 p := Nat.mul_pow 2 5 p
  have hdigits := digitCount_le (by omega) (mul_five_pow_lt hsmall p)
  rw [toBinary64_negSucc (Nat.mul_ne_zero hc hfive.ne') (by omega) (by omega), hp, hten,
    nearest_mul_right hfive]

/-- The decimal expansion of a float is read as this float. -/
theorem toBinary64_exact (hx : x.isFinite = true) (hzero : x.magnitude ≠ 0) :
    (exact x).toBinary64 = x := by
  have hexponent : x.exponent.val - 1 ≤ 2046 := by omega
  have hnearest := Binary64.nearest_magnitude hx
  have hplaces : (-1074 : Int) = .negSucc 1073 := rfl
  have hp : 1073 + 1 = 1074 := rfl
  unfold stepsPerOne at hnearest
  rw [exact, hplaces]
  generalize 1074 = p at hnearest hp ⊢
  have hlength : 53 + 2046 + p ≤ exponentLimit := by
    unfold exponentLimit
    omega
  exact (toBinary64_halved hp hzero (magnitude_lt hexponent) hlength).trans hnearest

theorem toBinary64_of_candidate? {lead : Int} {digits : Nat} {d : Decimal}
    (h : candidate? x lead digits = some d) : d.toBinary64 = x := by
  unfold candidate? at h
  dsimp only at h
  exact of_decide_eq_true
    (List.find?_some (p := fun other : Decimal => decide (other.toBinary64 = x)) h)

/-- The shortest decimal of a finite float is read as this float. -/
theorem toBinary64_ofBinary64 (hx : x.isFinite = true) : (ofBinary64 x).toBinary64 = x := by
  unfold ofBinary64
  split
  · rename_i hzero
    obtain ⟨hexponent, hfraction⟩ := Binary64.magnitude_eq_zero_iff.mp hzero
    have hrank := Binary64.ofRank_rank hx
    rw [hexponent, hfraction, Nat.zero_mul] at hrank
    exact toBinary64_zero.trans hrank
  · rename_i hnonzero
    dsimp only
    split
    · rename_i d hfound
      obtain ⟨digits, _, hcandidate⟩ := List.exists_of_findSome?_eq_some hfound
      rw [toBinary64_trim]
      exact toBinary64_of_candidate? hcandidate
    · exact toBinary64_exact hx hnonzero

end OutputArranger.Decimal
