import OutputArranger.Proofs.Number.Shortest

/-!
# Floats written with a point

A finite float is written as digits, a point and more digits, at least one on either side and
without superfluous zeros in front. The digits without the point are a whole number, and the float
is what this number stands for once the digits behind the point are counted as places.
-/

namespace OutputArranger

namespace Decimal

variable {d : Decimal} {c n : Nat}

/-! ## Digits -/

theorem isDigit_of_mem_toDigits : ∀ a ∈ Nat.toDigits 10 c, a.isDigit = true := fun _ ha =>
  Nat.isDigit_of_mem_toDigits (by decide) (by decide) ha

theorem isDigit_of_mem_replicate : ∀ a ∈ List.replicate n '0', a.isDigit = true := by
  intro a ha
  rw [List.eq_of_mem_replicate ha]
  rfl

theorem ne_of_isDigit {a b : Char} (ha : a.isDigit = true) (hb : b.isDigit = false) : a ≠ b := by
  rintro rfl
  rw [ha] at hb
  contradiction

theorem digitChar_ne_zero : ∀ n < 10, n ≠ 0 → n.digitChar ≠ '0' := by decide

/-- A positive number is written without a zero in front. -/
theorem head?_toDigits_ne (hc : c ≠ 0) : (Nat.toDigits 10 c).head? ≠ some '0' := by
  induction c using Nat.strongRecOn with
  | ind c ih =>
      by_cases hlow : c < 10
      · rw [Nat.toDigits_of_lt_base hlow]
        simpa using digitChar_ne_zero c hlow hc
      · have hfront : Nat.toDigits 10 (c / 10) ≠ [] := Nat.toDigits_ne_nil
        rw [Nat.toDigits_of_base_le (by decide) (by omega), List.head?_append,
          List.head?_eq_some_head hfront, Option.some_or, ← List.head?_eq_some_head hfront]
        exact ih (c / 10) (by omega) (by omega)

theorem toList_pushn (a : Char) (n : Nat) : ("".pushn a n).toList = List.replicate n a := by
  rw [String.pushn_eq_repeat_push]
  induction n with
  | zero => rfl
  | succ n ih => rw [Nat.repeat, String.toList_push, ih, List.replicate_succ']

/-! ## Layout -/

variable (d) in
/-- Digits around the point of a decimal. -/
structure Layout (whole places : List Char) : Prop where
  isDigit : ∀ a ∈ whole ++ places, a.isDigit = true
  front : whole = ['0'] ∨ whole ≠ [] ∧ whole.head? ≠ some '0'
  ne_nil : places ≠ []
  value : toBinary64 ⟨d.negative, Nat.ofDigitChars 10 (whole ++ places) 0, -places.length⟩ =
    d.toBinary64

theorem Layout.whole_ne_nil {whole places : List Char} (h : d.Layout whole places) :
    whole ≠ [] := by
  obtain hzero | ⟨hne, _⟩ := h.front
  · rw [hzero]
    decide
  · exact hne

theorem layout_zero (negative : Bool) (e : Int) : Layout ⟨negative, 0, e⟩ ['0'] ['0'] where
  isDigit := List.all_eq_true.mp rfl
  front := .inl rfl
  ne_nil := by decide
  value := toBinary64_zero.trans toBinary64_zero.symm

/-- A whole number gets a place. -/
theorem layout_whole (negative : Bool) (hc : c ≠ 0) (e : Nat) :
    Layout ⟨negative, c, e⟩ (Nat.toDigits 10 c ++ List.replicate e '0') ['0'] where
  isDigit := by
    simp only [List.forall_mem_append]
    exact ⟨⟨isDigit_of_mem_toDigits, isDigit_of_mem_replicate⟩, List.forall_mem_singleton.mpr rfl⟩
  front := by
    have hfront : Nat.toDigits 10 c ≠ [] := Nat.toDigits_ne_nil
    refine .inr ⟨List.append_ne_nil_of_left_ne_nil hfront _, ?_⟩
    rw [List.head?_append, List.head?_eq_some_head hfront, Option.some_or,
      ← List.head?_eq_some_head hfront]
    exact head?_toDigits_ne hc
  ne_nil := by decide
  value := by
    have hdigits : Nat.ofDigitChars 10 (Nat.toDigits 10 c ++ List.replicate e '0' ++ ['0']) 0 =
        c * 10 ^ (e + 1) := by
      rw [List.append_assoc, ← List.replicate_succ', Nat.ofDigitChars_append,
        Nat.ofDigitChars_ten_toDigits, Nat.ofDigitChars_replicate_zero, Nat.mul_comm]
    rw [hdigits, toBinary64_mul_pow]
    congr 2
    simp

/-- A number below one gets zeros in front. -/
theorem layout_low (negative : Bool) (hn : (Nat.toDigits 10 c).length ≤ n) :
    Layout ⟨negative, c, -n⟩ ['0']
      (List.replicate (n - (Nat.toDigits 10 c).length) '0' ++ Nat.toDigits 10 c) where
  isDigit := by
    simp only [List.forall_mem_append]
    exact ⟨List.forall_mem_singleton.mpr rfl, isDigit_of_mem_replicate, isDigit_of_mem_toDigits⟩
  front := .inl rfl
  ne_nil := List.append_ne_nil_of_right_ne_nil _ Nat.toDigits_ne_nil
  value := by
    have hzeros : ['0'] = List.replicate 1 '0' := rfl
    rw [hzeros, ← List.append_assoc, List.replicate_append_replicate, Nat.ofDigitChars_append,
      Nat.ofDigitChars_replicate_zero, Nat.mul_zero, Nat.ofDigitChars_ten_toDigits,
      List.length_append, List.length_replicate, Nat.sub_add_cancel hn]

/-- In any other number the point stands between the digits. -/
theorem layout_between (negative : Bool) (hn : n < (Nat.toDigits 10 c).length) (hpos : 0 < n) :
    Layout ⟨negative, c, -n⟩ ((Nat.toDigits 10 c).take ((Nat.toDigits 10 c).length - n))
      ((Nat.toDigits 10 c).drop ((Nat.toDigits 10 c).length - n)) where
  isDigit := by
    rw [List.take_append_drop]
    exact isDigit_of_mem_toDigits
  front := by
    have hc : c ≠ 0 := by
      rintro rfl
      rw [Nat.toDigits_zero, List.length_singleton] at hn
      omega
    refine .inr ⟨?_, ?_⟩
    · rw [ne_eq, List.take_eq_nil_iff]
      exact not_or_intro (by omega) Nat.toDigits_ne_nil
    · rw [List.head?_take, if_neg (by omega)]
      exact head?_toDigits_ne hc
  ne_nil := by
    rw [ne_eq, List.drop_eq_nil_iff]
    omega
  value := by
    rw [List.take_append_drop, Nat.ofDigitChars_ten_toDigits, List.length_drop,
      Nat.sub_sub_self (Nat.le_of_lt hn)]

/-- What stands in front of the digits. -/
def signText (negative : Bool) : List Char := if negative then ['-'] else []

theorem toList_signed (negative : Bool) (body : String) :
    (if negative then "-" ++ body else body).toList = signText negative ++ body.toList := by
  cases negative <;> simp [signText]

theorem exists_layout (d : Decimal) : ∃ whole places, d.Layout whole places ∧
    (if 0 ≤ d.exponent then d.positional ++ ".0" else d.positional).toList =
      signText d.negative ++ whole ++ '.' :: places := by
  obtain ⟨negative, c, e⟩ := d
  cases e with
  | ofNat e =>
      by_cases hc : c = 0
      · refine ⟨_, _, hc ▸ layout_zero negative e, ?_⟩
        cases negative <;> simp [positional, signText, hc]
      · refine ⟨_, _, layout_whole negative hc e, ?_⟩
        simp [positional, toList_signed, hc, toList_pushn, Nat.toList_repr]
  | negSucc n =>
      have hneg : ¬ 0 ≤ Int.negSucc n := by omega
      have hlength : c.repr.length = (Nat.toDigits 10 c).length := by
        rw [← Nat.toList_repr, String.length_toList]
      by_cases hlow : (Nat.toDigits 10 c).length ≤ n + 1
      · refine ⟨_, _, layout_low negative hlow, ?_⟩
        simp [positional, toList_signed, hneg, toList_pushn, Nat.toList_repr, hlength, hlow]
      · refine ⟨_, _, layout_between negative (Nat.lt_of_not_le hlow) (Nat.succ_pos n), ?_⟩
        simp [positional, toList_signed, hneg, Nat.toList_repr, hlength, hlow]

end Decimal

theorem Decimal.negative_toBinary64 (d : Decimal) : d.toBinary64.negative = d.negative := by
  unfold toBinary64
  dsimp only
  repeat' split
  all_goals rfl

/-- The text of a finite float. -/
theorem Binary64.exists_layout {x : Binary64} (hx : x.isFinite = true) :
    ∃ whole places, (Decimal.ofBinary64 x).Layout whole places ∧
      x.pointed.toList = Decimal.signText x.negative ++ whole ++ '.' :: places := by
  have hsign : (Decimal.ofBinary64 x).negative = x.negative := by
    rw [← Decimal.negative_toBinary64, Decimal.toBinary64_ofBinary64 hx]
  rw [← hsign]
  exact Decimal.exists_layout _

end OutputArranger
