import OutputArranger.Config.Toml
import OutputArranger.Proofs.Number.Positional

/-!
# Floats read back

Every float is written as a word that is read as this float, or as the one representative of what is
no number if it is none. Words end with their line.
-/

namespace OutputArranger

namespace Toml

open Decimal (signText)

variable {cs whole places word : List Char} {isDigit : Char → Bool} {d : Decimal} {v : Value}

/-! ## Digits -/

theorem isDigit_of_joinDigits {ds : List Char} (h : joinDigits isDigit cs = some ds) :
    ∀ c ∈ cs, isDigit c = true ∨ c = '_' := by
  fun_induction joinDigits isDigit cs generalizing ds with
  | case1 => contradiction
  | case2 c hc => simp [hc]
  | case3 => contradiction
  | case4 c rest hc ih =>
      obtain ⟨more, hmore, _⟩ := Option.map_eq_some_iff.mp h
      simpa [hc] using ih hmore
  | case5 => contradiction
  | case6 c rest _ _ hc ih =>
      obtain ⟨more, hmore, _⟩ := Option.map_eq_some_iff.mp h
      simpa [hc] using ih hmore
  | case7 => contradiction

/-- Nothing with a point in it is a sequence of digits. -/
theorem joinDigits_eq_none (hpoint : '.' ∈ cs) (hdigit : isDigit '.' = false) :
    joinDigits isDigit cs = none := by
  cases h : joinDigits isDigit cs with
  | none => rfl
  | some ds =>
      obtain hpoint | hpoint := isDigit_of_joinDigits h '.' hpoint
      · rw [hdigit] at hpoint
        contradiction
      · exact absurd hpoint (by decide)

/-- Digits without underscores are taken as they are. -/
theorem joinDigits_eq_some (hne : cs ≠ []) (hcs : ∀ c ∈ cs, c.isDigit = true) :
    joinDigits Char.isDigit cs = some cs := by
  fun_induction joinDigits Char.isDigit cs with
  | case1 => contradiction
  | case2 c hc => rfl
  | case3 c hc => exact absurd (hcs c List.mem_cons_self) hc
  | case4 c rest hc ih => exact absurd (hcs '_' (by simp)) (by decide)
  | case5 c rest hc => exact absurd (hcs c List.mem_cons_self) hc
  | case6 c rest hrest _ hc ih =>
      rw [ih hrest (fun a ha => hcs a (List.mem_cons_of_mem _ ha)), Option.map_some]
  | case7 c rest _ _ hc => exact absurd (hcs c List.mem_cons_self) hc

theorem hexValue?_of_isDigit {c : Char} (hc : c.isDigit = true) :
    Json.hexValue? c = some (c.toNat - '0'.toNat) := by
  unfold Json.hexValue?
  exact if_pos (Bool.and_eq_true_iff.mp hc |>.imp of_decide_eq_true of_decide_eq_true)

theorem valueOf_eq (hcs : ∀ c ∈ cs, c.isDigit = true) :
    valueOf 10 cs = Nat.ofDigitChars 10 cs 0 := by
  suffices h : ∀ n, cs.foldl (fun n c => n * 10 + (Json.hexValue? c).getD 0) n =
      Nat.ofDigitChars 10 cs n from h 0
  induction cs with
  | nil => exact fun _ => rfl
  | cons c cs ih =>
      intro n
      obtain ⟨hc, hcs⟩ := List.forall_mem_cons.mp hcs
      rw [List.foldl_cons, ih hcs, hexValue?_of_isDigit hc, Option.getD_some,
        Nat.ofDigitChars_cons, Nat.mul_comm]

/-! ## Numbers with a point -/

theorem splitSign_signText {negative : Bool} (hcs : ∀ c ∈ cs.head?, c.isDigit = true) :
    splitSign (signText negative ++ cs) = (negative, cs) := by
  cases negative with
  | true => rfl
  | false =>
      show splitSign cs = (false, cs)
      unfold splitSign
      split
      · exact absurd (hcs '-' rfl) (by decide)
      · exact absurd (hcs '+' rfl) (by decide)
      · rfl

theorem splitAtFirst_append {p : Char → Bool} {c : Char} (hcs : ∀ a ∈ cs, p a = false)
    (hc : p c = true) (rest : List Char) : splitAtFirst p (cs ++ c :: rest) = (cs, some rest) := by
  have hskip : ∀ a ∈ cs, (!p a) = true := by simpa using hcs
  simp [splitAtFirst, List.dropWhile_append_of_pos hskip, List.takeWhile_append_of_pos hskip, hc]

theorem splitAtFirst_eq_self {p : Char → Bool} (hcs : ∀ a ∈ cs, p a = false) :
    splitAtFirst p cs = (cs, none) := by
  have hskip : ∀ a ∈ cs, (!p a) = true := by simpa using hcs
  have hrest : (cs ++ []).dropWhile (!p ·) = [] := List.dropWhile_append_of_pos hskip
  rw [List.append_nil] at hrest
  simp only [splitAtFirst, hrest]

theorem decimal?_eq_none (hpoint : '.' ∈ cs) : decimal? cs = none := by
  rw [decimal?, joinDigits_eq_none hpoint (by decide)]

theorem decimal?_eq_some (hne : cs ≠ []) (hcs : ∀ c ∈ cs, c.isDigit = true)
    (hzero : cs = ['0'] ∨ cs ≠ [] ∧ cs.head? ≠ some '0') : decimal? cs = some cs := by
  rw [decimal?, joinDigits_eq_some hne hcs]
  split <;> simp_all

/-- What has a point is no integer. -/
theorem readInteger_eq_none (hpoint : '.' ∈ cs) : readInteger cs = none := by
  unfold readInteger
  dsimp only
  split
  · rw [joinDigits_eq_none (by simpa using hpoint) (by decide), Option.map_none]
  · rw [joinDigits_eq_none (by simpa using hpoint) (by decide), Option.map_none]
  · rw [joinDigits_eq_none (by simpa using hpoint) (by decide), Option.map_none]
  · have hbody : '.' ∈ (splitSign cs).2 := by
      unfold splitSign
      split <;> simp_all
    rw [decimal?_eq_none hbody, Option.map_none]


/-- A digit is no mark of any kind. -/
theorem eq_false_of_isDigit {c : Char} (hc : c.isDigit = true) :
    (c = 'e' || c = 'E') = false ∧ decide (c = '.') = false := by
  have hne (a : Char) (ha : a.isDigit = false) : c ≠ a := Decimal.ne_of_isDigit hc ha
  simp [hne]

/-- Digits around a point are read as the float that they stand for. -/
theorem readFloat_layout (h : d.Layout whole places) (hd : d.toBinary64.isFinite = true) :
    readFloat (signText d.negative ++ whole ++ '.' :: places) = some (.float d.toBinary64) := by
  obtain ⟨hwhole, hplaces⟩ := List.forall_mem_append.mp h.isDigit
  have hne : whole ≠ [] := h.whole_ne_nil
  have hsign : splitSign (signText d.negative ++ (whole ++ '.' :: places)) =
      (d.negative, whole ++ '.' :: places) := by
    refine splitSign_signText fun c hc => ?_
    rw [List.head?_append, List.head?_eq_some_head hne, Option.some_or] at hc
    exact hwhole c (Option.some.inj hc ▸ List.head_mem hne)
  have hpower : splitAtFirst (fun c => c = 'e' || c = 'E') (whole ++ '.' :: places) =
      (whole ++ '.' :: places, none) := by
    refine splitAtFirst_eq_self ?_
    simp only [List.forall_mem_append, List.forall_mem_cons]
    exact ⟨fun c hc => (eq_false_of_isDigit (hwhole c hc)).1, by decide,
      fun c hc => (eq_false_of_isDigit (hplaces c hc)).1⟩
  have hpoint : splitAtFirst (· = '.') (whole ++ '.' :: places) = (whole, some places) :=
    splitAtFirst_append (fun c hc => (eq_false_of_isDigit (hwhole c hc)).2) (by decide) places
  have hvalue : (Decimal.mk d.negative (valueOf 10 (whole ++ places)) (-places.length)).toBinary64 =
      d.toBinary64 := by
    rw [valueOf_eq h.isDigit]
    exact h.value
  -- The point also tells the number from the words for an infinity and for what is no number.
  have hmem : '.' ∈ whole ++ '.' :: places := List.mem_append_right _ List.mem_cons_self
  rw [List.append_assoc, readFloat, hsign]
  dsimp only
  split
  · rename_i hword
    exact absurd (hword ▸ hmem) (by decide)
  · rename_i hword
    exact absurd (hword ▸ hmem) (by decide)
  · simp [hpower, hpoint, decimal?_eq_some hne hwhole h.front, joinDigits_eq_some h.ne_nil hplaces,
      hvalue, hd]

/-! ## Words -/

/-- The characters of numbers and names. -/
def isWordChar (c : Char) : Bool := c.isAlphanum || c = '-' || c = '.'

theorem ne_of_isWordChar {c a : Char} (hc : isWordChar c = true) (ha : isWordChar a = false) :
    c ≠ a := by
  rintro rfl
  rw [hc] at ha
  contradiction

theorem endsWord_of_isWordChar {c : Char} (hc : isWordChar c = true) : endsWord c = false := by
  have hne (a : Char) (ha : isWordChar a = false) : c ≠ a := ne_of_isWordChar hc ha
  simp only [endsWord, Bool.or_eq_false_iff, decide_eq_false_iff_not]
  refine ⟨⟨⟨⟨⟨⟨⟨?_, ?_⟩, ?_⟩, ?_⟩, ?_⟩, ?_⟩, ?_⟩, ?_⟩ <;> exact hne _ (by decide)

/-- A word of which a value is read. -/
structure IsWord (word : List Char) (v : Value) : Prop where
  within : ∀ c ∈ word, isWordChar c = true
  read : readScalar word = some v

theorem isWord_boolean (b : Bool) : IsWord (if b then "true" else "false").toList (.boolean b) := by
  cases b <;> exact ⟨List.all_eq_true.mp rfl, rfl⟩

/-- A word ends with its line. -/
theorem IsWord.readWord (h : IsWord word v) (rest : List Char) :
    readWord (word ++ '\n' :: rest) = some (v, '\n' :: rest) := by
  have hwithin : ∀ c ∈ word, (!endsWord c) = true := by
    intro c hc
    rw [endsWord_of_isWordChar (h.within c hc), Bool.not_false]
  have hend : (!endsWord '\n') = false := by decide
  have htake : (word ++ '\n' :: rest).takeWhile (!endsWord ·) = word := by
    rw [List.takeWhile_append_of_pos hwithin, List.takeWhile_cons_of_neg (by simp [hend]),
      List.append_nil]
  have hdrop : (word ++ '\n' :: rest).dropWhile (!endsWord ·) = '\n' :: rest := by
    rw [List.dropWhile_append_of_pos hwithin, List.dropWhile_cons_of_neg (by simp [hend])]
  unfold Toml.readWord
  simp only [htake, hdrop, h.read, Option.map_some]
  split
  · rename_i hspace
    exact absurd (List.cons.inj hspace).1 (by decide)
  · rfl

theorem readScalar_of_point (hpoint : '.' ∈ cs) (h : readFloat cs = some v) :
    readScalar cs = some v := by
  have htrue : cs ≠ ['t', 'r', 'u', 'e'] := by
    rintro rfl
    exact absurd hpoint (by decide)
  have hfalse : cs ≠ ['f', 'a', 'l', 's', 'e'] := by
    rintro rfl
    exact absurd hpoint (by decide)
  simp [readScalar, htrue, hfalse, readInteger_eq_none hpoint, h]

end Toml

/-! ## Floats -/

namespace Binary64

variable {x : Binary64}

/-- The float, or the representative of what is no number. -/
def canonical (x : Binary64) : Binary64 := if x.isNaN then nan else x

theorem canonical_eq_self (hx : x.isNaN = false) : x.canonical = x := by
  rw [canonical, hx, if_neg Bool.false_ne_true]

theorem isNaN_canonical (x : Binary64) : x.canonical.isNaN = x.isNaN := by
  cases hx : x.isNaN with
  | false => rw [canonical_eq_self hx, hx]
  | true =>
      rw [canonical, if_pos hx]
      rfl

theorem isNonPositive_canonical (x : Binary64) : x.canonical.isNonPositive = x.isNonPositive := by
  cases hx : x.isNaN with
  | false => rw [canonical_eq_self hx]
  | true =>
      rw [isNonPositive, isNonPositive, isNaN_canonical, hx]
      rfl

theorem eq_infinity (hx : x.isInfinite = true) :
    x = .infinity x.negative := by
  obtain ⟨negative, exponent, fraction⟩ := x
  obtain ⟨hexponent, hfraction⟩ := Bool.and_eq_true_iff.mp hx
  have hexponent := eq_of_beq hexponent
  have hfraction := eq_of_beq hfraction
  congr 1
  · exact Fin.ext hexponent
  · exact Fin.ext hfraction

theorem isFinite_of (hnan : x.isNaN = false) (hinf : x.isInfinite = false) :
    x.isFinite = true := by
  unfold isNaN at hnan
  unfold isInfinite at hinf
  unfold isFinite
  grind

end Binary64

/-- What is written for a float is a word of its own. -/
theorem Toml.isWord_floatText (x : Binary64) :
    IsWord (Config.floatText x) (.float x.canonical) := by
  unfold Config.floatText
  by_cases hnan : x.isNaN = true
  · rw [if_pos hnan, Binary64.canonical, if_pos hnan]
    exact ⟨List.all_eq_true.mp rfl, rfl⟩
  rw [if_neg hnan, Binary64.canonical_eq_self (Bool.eq_false_iff.mpr hnan)]
  by_cases hinf : x.isInfinite = true
  · rw [if_pos hinf, Binary64.eq_infinity hinf]
    cases x.negative <;> exact ⟨List.all_eq_true.mp rfl, rfl⟩
  · rw [if_neg hinf]
    have hfinite := Binary64.isFinite_of (Bool.eq_false_iff.mpr hnan) (Bool.eq_false_iff.mpr hinf)
    obtain ⟨whole, places, hlayout, htext⟩ := Binary64.exists_layout hfinite
    have hread := Decimal.toBinary64_ofBinary64 hfinite
    have hsign := Decimal.negative_toBinary64 (Decimal.ofBinary64 x)
    rw [hread] at hsign
    have hfloat := readFloat_layout hlayout (hread.symm ▸ hfinite)
    rw [← hsign, hread] at hfloat
    rw [htext]
    refine ⟨?_, readScalar_of_point (by simp) hfloat⟩
    have hdigit (c : Char) (hc : c.isDigit = true) : isWordChar c = true := by
      simp [isWordChar, Char.isAlphanum, hc]
    obtain ⟨hwhole, hplaces⟩ := List.forall_mem_append.mp hlayout.isDigit
    simp only [List.forall_mem_append, List.forall_mem_cons]
    refine ⟨⟨?_, fun c hc => hdigit c (hwhole c hc)⟩, by decide,
      fun c hc => hdigit c (hplaces c hc)⟩
    cases x.negative <;> exact List.all_eq_true.mp rfl

end OutputArranger
