import OutputArranger.Proofs.Json.Tokens
import OutputArranger.Proofs.Number.Positional

/-!
# Few digits are read exactly

Reading a decimal in stages rounds its digits, the power of ten behind them, and their quotient.
When the first two are floats already, nothing is rounded but the quotient, and the result is the
float that is nearest to the decimal.
-/

namespace OutputArranger

namespace Binary64

/-! ## Whole numbers that are floats -/

/-- Up to 53 binary digits, moved to the left, are the magnitude of a float. -/
theorem exists_magnitude_eq {m p : Nat} (hm : m < 2 ^ 53) (hlow : 52 ≤ p) (hhigh : p ≤ 2045) :
    ∃ x : Binary64, x.isFinite = true ∧ x.negative = false ∧ x.magnitude = m * 2 ^ p := by
  by_cases hzero : m = 0
  · refine ⟨⟨false, ⟨0, by decide⟩, ⟨0, by decide⟩⟩, rfl, rfl, ?_⟩
    rw [hzero, Nat.zero_mul]
    rfl
  · obtain ⟨hfirst, hlast⟩ := (Nat.log2_eq_iff hzero).mp rfl
    have hk : m.log2 ≤ 52 := Nat.le_of_lt_succ ((Nat.log2_lt hzero).mpr hm)
    generalize m.log2 = k at hfirst hlast hk
    have hpower : 2 ^ k * 2 ^ (52 - k) = fractions := by
      rw [← Nat.pow_add, Nat.add_sub_cancel' hk]
    have hleast : fractions ≤ m * 2 ^ (52 - k) := hpower ▸ Nat.mul_le_mul_right _ hfirst
    have hmost : m * 2 ^ (52 - k) < 2 * fractions := by
      rw [← hpower, ← Nat.mul_assoc, ← Nat.pow_succ']
      exact Nat.mul_lt_mul_of_pos_right hlast (Nat.two_pow_pos _)
    have hshift : 2 ^ (52 - k) * 2 ^ (p - (52 - k)) = 2 ^ p := by
      rw [← Nat.pow_add]
      congr 1
      omega
    refine ⟨⟨false, ⟨p - (52 - k) + 1, by omega⟩,
      ⟨m * 2 ^ (52 - k) - fractions, by unfold fractions at *; omega⟩⟩, ?_, rfl, ?_⟩
    · simp only [isFinite, bne_iff_ne]
      omega
    · rw [magnitude, if_neg (Nat.succ_ne_zero _), Nat.add_sub_cancel' hleast, Nat.add_sub_cancel,
        Nat.pow_eq, Nat.mul_assoc, hshift]

/-- Up to 53 binary digits, moved to the left, are a float. -/
theorem magnitude_ofNat {m j : Nat} (hm : m < 2 ^ 53) (hj : j ≤ 900) :
    (ofNat (m * 2 ^ j)).magnitude = m * 2 ^ j * stepsPerOne := by
  obtain ⟨p, hlow, hhigh, hsteps⟩ : ∃ p, 52 ≤ p ∧ p ≤ 1100 ∧ stepsPerOne = 2 ^ p := by
    have hrange : 52 ≤ 1074 ∧ 1074 ≤ 1100 := by decide
    unfold stepsPerOne
    generalize 1074 = p at hrange ⊢
    exact ⟨p, hrange.1, hrange.2, rfl⟩
  obtain ⟨x, hfinite, hsign, hmagnitude⟩ := exists_magnitude_eq hm
    (show 52 ≤ j + p by omega) (show j + p ≤ 2045 by omega)
  have hvalue : x.magnitude = m * 2 ^ j * stepsPerOne := by
    rw [hmagnitude, Nat.pow_add, Nat.mul_assoc, hsteps]
  have hnearest := nearest_magnitude hfinite
  rw [hsign, hvalue] at hnearest
  have hself : ofNat (m * 2 ^ j) = x := by
    rw [ofNat, ← nearest_mul_right stepsPerOne_pos, Nat.one_mul]
    exact hnearest
  rw [hself, hvalue]

theorem nearest_zero (negative : Bool) (den : Nat) :
    nearest negative 0 den = ofRank negative 0 := by
  have hround (den : Nat) : roundHalfEven 0 den = 0 := by simp [roundHalfEven]
  rw [nearest, Nat.zero_mul, Nat.zero_div, Nat.log2_zero, Nat.zero_sub, hround, Nat.zero_mul]

end Binary64

namespace Staged

open Binary64 (nearest nearest_mul_right stepsPerOne)

variable {cs whole places : List Char} {n : Nat}

/-! ## Digits -/

theorem le_ofDigitChars (cs : List Char) (n : Nat) : n ≤ Nat.ofDigitChars 10 cs n := by
  induction cs generalizing n with
  | nil => exact Nat.le_refl n
  | cons c cs ih =>
      rw [Nat.ofDigitChars_cons]
      exact Nat.le_trans (by omega) (ih _)

theorem ofDigitChars_lt (hcs : ∀ c ∈ cs, c.isDigit = true) :
    Nat.ofDigitChars 10 cs n < (n + 1) * 10 ^ cs.length := by
  induction cs generalizing n with
  | nil => simp
  | cons c cs ih =>
      obtain ⟨hc, hcs⟩ := List.forall_mem_cons.mp hcs
      have hdigit : c.toNat - '0'.toNat < 10 := by
        simp only [Char.isDigit, Bool.and_eq_true, decide_eq_true_eq, UInt32.le_iff_toNat_le] at hc
        show c.val.toNat - 48 < 10
        exact Nat.sub_lt_left_of_lt_add hc.1 (Nat.lt_succ_of_le hc.2)
      rw [Nat.ofDigitChars_cons, List.length_cons, Nat.pow_succ']
      refine Nat.lt_of_lt_of_le (ih hcs) ?_
      rw [← Nat.mul_assoc]
      exact Nat.mul_le_mul_right _ (by omega)

/-- As long as they fit, digits in front of the point are taken as they are. -/
theorem foldl_pushWhole (h : Nat.ofDigitChars 10 cs n ≤ maxSignificand) :
    (cs.map Json.digitValue).foldl Digits.pushWhole ⟨n, 0, false⟩ =
      ⟨Nat.ofDigitChars 10 cs n, 0, false⟩ := by
  induction cs generalizing n with
  | nil => rfl
  | cons c cs ih =>
      rw [Nat.ofDigitChars_cons, Nat.mul_comm] at h ⊢
      have hfits : fits n (Json.digitValue c) = true :=
        decide_eq_true (Nat.le_trans (le_ofDigitChars cs _) h)
      rw [List.map_cons, List.foldl_cons, Digits.pushWhole]
      simp only [Bool.not_false, hfits, Bool.and_self, if_true]
      exact ih h

/-- As long as they fit, digits behind the point are taken as they are, and each counts as a
place. -/
theorem foldl_pushPlace (e : Int) (h : Nat.ofDigitChars 10 cs n ≤ maxSignificand) :
    (cs.map Json.digitValue).foldl (fun (d, stopped) => Digits.pushPlace d stopped)
        (⟨n, e, false⟩, false) =
      (⟨Nat.ofDigitChars 10 cs n, e - cs.length, false⟩, false) := by
  induction cs generalizing n e with
  | nil => simp [Nat.ofDigitChars_nil]
  | cons c cs ih =>
      rw [Nat.ofDigitChars_cons, Nat.mul_comm] at h ⊢
      have hfits : fits n (Json.digitValue c) = true :=
        decide_eq_true (Nat.le_trans (le_ofDigitChars cs _) h)
      have hplaces : e - 1 - (cs.length : Int) = e - (cs.length + 1 : Nat) := by omega
      simp only [List.map_cons, List.foldl_cons, Digits.pushPlace, Bool.not_false, hfits,
        Bool.and_self, if_true, List.length_cons, ← hplaces]
      exact ih (e - 1) h

theorem digits_eq (h : Nat.ofDigitChars 10 (whole ++ places) 0 ≤ maxSignificand) :
    digits (whole.map Json.digitValue) (places.map Json.digitValue) =
      ⟨Nat.ofDigitChars 10 (whole ++ places) 0, -places.length, false⟩ := by
  rw [Nat.ofDigitChars_append] at h ⊢
  rw [digits, foldl_pushWhole (Nat.le_trans (le_ofDigitChars places _) h), foldl_pushPlace 0 h,
    Int.zero_sub]

/-! ## Quotients -/

/-- A quotient of two floats is rounded once. -/
theorem toBinary64_negSucc {k : Nat} (hn : n < 2 ^ 53) (hk : k < 22) :
    toBinary64 n (.negSucc k) = some (nearest false n (10 ^ (k + 1))) := by
  have hten : 10 ^ (k + 1) = 5 ^ (k + 1) * 2 ^ (k + 1) := Nat.mul_pow 5 2 (k + 1)
  have hfive : 5 ^ (k + 1) < 2 ^ 53 :=
    Nat.lt_of_le_of_lt (Nat.pow_le_pow_right (by decide) (show k + 1 ≤ 22 by omega)) (by decide)
  have hden := Binary64.magnitude_ofNat hfive (show k + 1 ≤ 900 by omega)
  have hnum := Binary64.magnitude_ofNat hn (Nat.zero_le 900)
  rw [Nat.pow_zero, Nat.mul_one] at hnum
  rw [← hten] at hden
  have hpower : k + 1 ≤ maxPower := by
    unfold maxPower
    omega
  rw [toBinary64, shrink, if_pos hpower, scaleDown, Nat.pow_eq, hden, hnum,
    nearest_mul_right Binary64.stepsPerOne_pos]

-- With more digits the first rounding can show.
example :
    toBinary64 31245270191439438 (-15) ≠ some (nearest false 31245270191439438 (10 ^ 15)) := by
  decide +kernel

end Staged

namespace Json

open Binary64 (nearest)
open Decimal (ne_of_isDigit signText)

variable {cs whole places : List Char} {negative : Bool} {d : Decimal}

/-! ## Words -/

/-- A text without blanks, marks and quotes is a single word. -/
theorem Lexer.runText_word {read : List Char}
    (hcs : ∀ c ∈ cs, isBlank c = false ∧ Token.ofMark? c = none ∧ c ≠ '"') :
    runText (.word read) cs = (Token.ofWord (read.reverse ++ cs)).map fun t => [t] := by
  induction cs generalizing read with
  | nil =>
      rw [List.append_nil]
      rfl
  | cons c cs ih =>
      obtain ⟨⟨hblank, hmark, hquote⟩, hcs⟩ := List.forall_mem_cons.mp hcs
      have hstep : step (.word read) c = some ([], .word (c :: read)) := by
        simp [step, hblank, hmark, hquote]
      rw [runText_silent hstep, ih hcs, List.reverse_cons, List.append_assoc]
      rfl

theorem tokenize_word (hne : cs ≠ [])
    (hcs : ∀ c ∈ cs, isBlank c = false ∧ Token.ofMark? c = none ∧ c ≠ '"') :
    tokenize (cs.map some) = (Token.ofWord cs).map fun t => [t] := by
  cases cs with
  | nil => exact absurd rfl hne
  | cons c cs =>
      obtain ⟨⟨hblank, hmark, hquote⟩, hcs⟩ := List.forall_mem_cons.mp hcs
      have hstep : Lexer.step .between c = some ([], .word [c]) := by
        simp [Lexer.step, Lexer.begin, hblank, hmark, hquote]
      rw [tokenize, ← Lexer.runText, Lexer.runText_silent hstep, Lexer.runText_word hcs]
      rfl

/-! ## Literals -/

/-- Neither a digit nor a sign nor a point ends a word. -/
theorem isPlain_of_mem (hdigits : ∀ c ∈ whole ++ places, c.isDigit = true) :
    ∀ c ∈ signText negative ++ whole ++ '.' :: places,
      isBlank c = false ∧ Token.ofMark? c = none ∧ c ≠ '"' := by
  obtain ⟨hwhole, hplaces⟩ := List.forall_mem_append.mp hdigits
  have hdigit (c : Char) (hc : c.isDigit = true) :
      isBlank c = false ∧ Token.ofMark? c = none ∧ c ≠ '"' := by
    have hne (a : Char) (ha : a.isDigit = false) : c ≠ a := ne_of_isDigit hc ha
    simp [isBlank, Token.ofMark?, hne]
  simp only [List.forall_mem_append, List.forall_mem_cons]
  refine ⟨⟨?_, fun c hc => hdigit c (hwhole c hc)⟩, by decide, fun c hc => hdigit c (hplaces c hc)⟩
  cases negative with
  | true => exact List.forall_mem_singleton.mpr (by decide)
  | false => exact List.forall_mem_nil _

theorem splitExponent_eq_self (hcs : ∀ c ∈ cs, c ≠ 'e' ∧ c ≠ 'E') :
    splitExponent cs = some (cs, none) := by
  have hskip : ∀ c ∈ cs, (!(decide (c = 'e') || decide (c = 'E'))) = true := fun c hc => by
    simp [hcs c hc]
  have hrest : (cs ++ []).dropWhile (fun c => !(decide (c = 'e') || decide (c = 'E'))) = [] :=
    List.dropWhile_append_of_pos hskip
  rw [List.append_nil] at hrest
  simp only [splitExponent, hrest]

/-- A literal with a point and without an exponent is cut at the point. -/
theorem ofLiteral_layout (h : d.Layout whole places) (negative : Bool) :
    NumberParts.ofLiteral (signText negative ++ whole ++ '.' :: places) =
      some ⟨negative, whole, some places, none⟩ := by
  obtain ⟨hwhole, hplaces⟩ := List.forall_mem_append.mp h.isDigit
  have hne : whole ≠ [] := h.whole_ne_nil
  have hzero : ¬ (1 < whole.length ∧ whole.head? = some '0') := by
    obtain hzero | ⟨_, hhead⟩ := h.front
    · simp [hzero]
    · exact fun h => hhead h.2
  have hpower : splitExponent (whole ++ '.' :: places) = some (whole ++ '.' :: places, none) := by
    refine splitExponent_eq_self ?_
    simp only [List.forall_mem_append, List.forall_mem_cons]
    exact ⟨fun c hc => ⟨ne_of_isDigit (hwhole c hc) rfl, ne_of_isDigit (hwhole c hc) rfl⟩,
      by decide,
      fun c hc => ⟨ne_of_isDigit (hplaces c hc) rfl, ne_of_isDigit (hplaces c hc) rfl⟩⟩
  have hpoint : ∀ c ∈ whole, decide (c ≠ '.') = true := fun c hc =>
    decide_eq_true (ne_of_isDigit (hwhole c hc) rfl)
  have hfirst : (whole ++ '.' :: places).takeWhile (fun c => decide (c ≠ '.')) = whole := by
    rw [List.takeWhile_append_of_pos hpoint, List.takeWhile_cons_of_neg (by decide),
      List.append_nil]
  have hlast : (whole ++ '.' :: places).dropWhile (fun c => decide (c ≠ '.')) = '.' :: places := by
    rw [List.dropWhile_append_of_pos hpoint, List.dropWhile_cons_of_neg (by decide)]
  have digits {ds : List Char} (hds : ds ≠ []) (hall : ∀ c ∈ ds, c.isDigit = true) :
      ¬ (ds = [] ∨ (!ds.all Char.isDigit) = true) := by
    rw [List.all_eq_true.mpr hall]
    exact not_or_intro hds Bool.false_ne_true
  have hminus : ∀ rest, whole ++ '.' :: places = '-' :: rest → False := by
    obtain ⟨c, rest, rfl⟩ := List.exists_cons_of_ne_nil hne
    intro _ heq
    exact ne_of_isDigit (hwhole c List.mem_cons_self) rfl (List.cons.inj heq).1
  rw [List.append_assoc]
  cases negative with
  | true =>
      show NumberParts.ofLiteral ('-' :: (whole ++ '.' :: places)) = _
      rw [NumberParts.ofLiteral, hpower]
      simp only [Option.bind_eq_bind, Option.bind_some, hfirst, hlast]
      rw [if_neg (digits hne hwhole), if_neg hzero, if_neg (digits h.ne_nil hplaces)]
  | false =>
      show NumberParts.ofLiteral (whole ++ '.' :: places) = _
      rw [NumberParts.ofLiteral, hpower]
      · simp only [Option.bind_eq_bind, Option.bind_some, hfirst, hlast]
        rw [if_neg (digits hne hwhole), if_neg hzero, if_neg (digits h.ne_nil hplaces)]
      · exact hminus

/-- What is laid out around a point is a word for the number that is cut at the point. -/
theorem tokenize_layout (h : d.Layout whole places) (negative : Bool) :
    tokenize ((signText negative ++ whole ++ '.' :: places).map some) =
      some [.number (NumberParts.value ⟨negative, whole, some places, none⟩)] := by
  have hpoint : '.' ∈ signText negative ++ whole ++ '.' :: places :=
    List.mem_append_right _ List.mem_cons_self
  have hword : Token.ofWord (signText negative ++ whole ++ '.' :: places) =
      some (.number (NumberParts.value ⟨negative, whole, some places, none⟩)) := by
    unfold Token.ofWord
    rw [if_neg, if_neg, if_neg, ofLiteral_layout h, Option.map_some]
    all_goals
      intro hword
      exact absurd (hword ▸ hpoint) (by decide)
  rw [tokenize_word (List.ne_nil_of_mem hpoint) (isPlain_of_mem h.isDigit), hword, Option.map_some]

/-! ## Floats -/

/-- Digits around a point that make up a float on their own are read as the nearest float. -/
theorem value_layout (h : d.Layout whole places) (hplaces : places.length ≤ 22)
    (hsmall : Nat.ofDigitChars 10 (whole ++ places) 0 < 2 ^ 53) :
    NumberParts.value ⟨d.negative, whole, some places, none⟩ = .real d.toBinary64 := by
  obtain ⟨k, hk⟩ := Nat.exists_eq_succ_of_ne_zero (mt List.length_eq_zero_iff.mp h.ne_nil)
  have hnegSucc : (-(places.length : Int)) = .negSucc k := by
    rw [hk]
    rfl
  have hdigits := Staged.digits_eq (Nat.le_trans (Nat.le_of_lt hsmall) (by decide))
  have hnearest := h.value
  rw [hnegSucc] at hdigits hnearest
  generalize Nat.ofDigitChars 10 (whole ++ places) 0 = n at hsmall hdigits hnearest
  have hvalue : nearest d.negative n (10 ^ (k + 1)) = d.toBinary64 := by
    rw [← hnearest]
    by_cases hn : n = 0
    · rw [hn, Binary64.nearest_zero, Decimal.toBinary64_zero]
    · have hcount : Decimal.digitCount n ≤ 16 :=
        Decimal.digitCount_le (by decide) (Nat.lt_trans hsmall (by decide))
      have hlimit : 22 < Decimal.exponentLimit := by decide
      exact (Decimal.toBinary64_negSucc hn (by omega) (by omega)).symm
  simp only [NumberParts.value, Option.getD_some, hdigits,
    Staged.toBinary64_negSucc hsmall (show k < 22 by omega), ← hvalue]
  rfl

/-- A float that is written without an exponent, in at most sixteen characters, is read back. -/
theorem Number.readsBack_of_length_le {x : Binary64} (hx : x.isFinite = true)
    (hplain : x.compact = x.pointed) (hlength : x.pointed.length ≤ 16) :
    (Number.real x).ReadsBack := by
  obtain ⟨whole, places, h, htext⟩ := x.exists_layout hx
  have hself := Decimal.toBinary64_ofBinary64 hx
  have hsign : (Decimal.ofBinary64 x).negative = x.negative := by
    rw [← Decimal.negative_toBinary64, hself]
  have hcount : (whole ++ places).length ≤ 15 := by
    rw [← String.length_toList, htext] at hlength
    simp only [List.length_append, List.length_cons] at hlength ⊢
    omega
  have hsmall : Nat.ofDigitChars 10 (whole ++ places) 0 < 2 ^ 53 := by
    have hpower : 10 ^ (whole ++ places).length ≤ 10 ^ 15 := Nat.pow_le_pow_right (by decide) hcount
    exact Nat.lt_of_lt_of_le (Staged.ofDigitChars_lt h.isDigit) (by omega)
  have hplaces : places.length ≤ 22 := by
    rw [List.length_append] at hcount
    omega
  have hvalue := value_layout h hplaces hsmall
  rw [hself, hsign] at hvalue
  have hwritten : (Number.real x).text = signText x.negative ++ whole ++ '.' :: places := by
    rw [Number.text, if_pos hx, hplain, htext]
  rw [ReadsBack, hwritten, tokenize_layout h, hvalue]

end Json

end OutputArranger
