import OutputArranger.Config.Issue
import OutputArranger.Proofs.Layout.ModeChoice
import OutputArranger.Proofs.Number.Rounding

/-!
# Which scale a head shall have

A scale that suits a display comes out positive, whatever its size and mode are. A scale that the
user gives is rounded to 256ths, and a positive one of less than half of that becomes nothing, just
as what is no number does.
-/

namespace OutputArranger

open Binary64 (stepsPerOne)

/-! ## The scale that suits a display -/

namespace Layout

theorem truncate_nonneg {r : Rat} (hr : 0 ≤ r) : 0 ≤ truncate r :=
  Int.tdiv_nonneg (Rat.num_nonneg.mpr hr) (Int.natCast_nonneg _)

/-- What is rounded from what is not negative is not negative either. -/
theorem dotsPerInch_nonneg {m : Mode} (hwidth : 0 ≤ m.width) (hheight : 0 ≤ m.height)
    (widthMm heightMm : Int) : 0 ≤ dotsPerInch widthMm heightMm m := by
  unfold dotsPerInch dotsPerInchWith
  split
  · exact le_refl 0
  · rename_i hknown
    have hmm : 0 ≤ widthMm ∧ 0 ≤ heightMm := by omega
    have hinch : 0 ≤ Binary64.rounded millimetresPerInch :=
      Binary64.rounded_nonneg (by decide)
    have along {pixels mm : Int} (hpixels : 0 ≤ pixels) (hmm : 0 ≤ mm) :
        0 ≤ Binary64.rounded
          (Binary64.rounded ((pixels : Rat) / mm) * Binary64.rounded millimetresPerInch) := by
      have hratio : (0 : Rat) ≤ (pixels : Rat) / mm :=
        div_nonneg (Int.cast_nonneg hpixels) (Int.cast_nonneg hmm)
      exact Binary64.rounded_nonneg (mul_nonneg (Binary64.rounded_nonneg hratio) hinch)
    have hsum := add_nonneg (along hwidth hmm.1) (along hheight hmm.2)
    exact Binary64.rounded_nonneg (div_nonneg (Binary64.rounded_nonneg hsum) (by decide))

theorem scaleOfQuantized_pos {k : Int} (hk : 0 ≤ k) : 0 < (scaleOfQuantized (k * 12)).raw := by
  unfold scaleOfQuantized
  split
  · decide
  · dsimp only
    split
    · dsimp only
      rw [Int.tdiv_eq_ediv_of_nonneg (by omega)]
      omega
    · decide

theorem autoScale_pos {m : Option Mode} (hm : ∀ mode ∈ m, 0 ≤ mode.width ∧ 0 ≤ mode.height)
    (widthMm heightMm : Int) : 0 < (autoScale widthMm heightMm m).raw := by
  have hone : 0 < Scale.one.raw := by decide
  cases m with
  | none => exact hone
  | some mode =>
      obtain ⟨hwidth, hheight⟩ := hm mode rfl
      have hdpi := dotsPerInch_nonneg hwidth hheight widthMm heightMm
      unfold autoScale autoScaleWith
      dsimp only
      split
      · decide
      · have htwelfth := Binary64.rounded_nonneg (div_nonneg hdpi (show (0 : Rat) ≤ 12 by decide))
        have hhalf : (0 : Rat) ≤ mkRat 1 2 := by decide
        exact scaleOfQuantized_pos
          (truncate_nonneg (Binary64.rounded_nonneg (add_nonneg htwelfth hhalf)))

/-! ## The scale that is chosen -/

/-- Rounding to a scale leaves something of a number exactly if it is at least half of a 256th. -/
theorem raw_ofFloat_pos_iff {x : Binary64} : 0 < (Scale.ofFloat x).raw ↔
    x.isNaN = false ∧ (stepsPerOne : Int) ≤ 512 * x.steps :=
  Binary64.round256_pos_iff (by decide) (by decide)

variable {c : Config} {h : Head} {m : Option Mode}

/-- A head gets a positive scale exactly if the user gives none for it, or one that is at least half
of a 256th. -/
theorem wantedScale_pos_iff (hm : ∀ mode ∈ m, 0 ≤ mode.width ∧ 0 ≤ mode.height) :
    0 < (wantedScale c h m).raw ↔
      ∀ entry, c.scales.find? (h.isSelectedBy ·.pattern) = some entry →
        entry.scale.isNaN = false ∧ (stepsPerOne : Int) ≤ 512 * entry.scale.steps := by
  unfold wantedScale
  cases hfind : c.scales.find? (h.isSelectedBy ·.pattern) with
  | some entry =>
      refine raw_ofFloat_pos_iff.trans ⟨fun hlarge other hother => ?_, fun hall => hall entry rfl⟩
      exact Option.some.inj hother ▸ hlarge
  | none =>
      have hpos :
          0 < (if c.autoScale then autoScale h.widthMm h.heightMm m else Scale.one).raw := by
        split
        · exact autoScale_pos hm h.widthMm h.heightMm
        · decide
      exact iff_of_true hpos fun entry hentry =>
        absurd hentry (by simp only [reduceCtorEq, not_false_eq_true])

/-- With a configuration without issues no head gets a negative scale. -/
theorem wantedScale_nonneg (hc : c.issues = [])
    (hm : ∀ mode ∈ m, 0 ≤ mode.width ∧ 0 ≤ mode.height) : 0 ≤ (wantedScale c h m).raw := by
  cases hfind : c.scales.find? (h.isSelectedBy ·.pattern) with
  | some entry =>
      have hsound : entry.scale.isNonPositive = false := by
        have hnone : c.scales.filter (·.scale.isNonPositive) = [] := by
          simp only [Config.issues, List.append_eq_nil_iff, List.map_eq_nil_iff] at hc
          exact hc.1.2
        exact Bool.eq_false_iff.mpr
          (List.filter_eq_nil_iff.mp hnone entry (List.mem_of_find?_eq_some hfind))
      rw [wantedScale, hfind]
      exact Binary64.round256_nonneg (by decide) hsound
  | none =>
      refine Int.le_of_lt ((wantedScale_pos_iff hm).mpr fun entry hentry => ?_)
      simp [hfind] at hentry

/-- A head that shall be on shall have the scale that is chosen for it in one of its modes. -/
theorem exists_scale_of_wanted {sole : Bool} (hon : (wanted c sole h).enabled = true) :
    ∃ m, (wanted c sole h).scale = wantedScale c h (h.mode? m) := by
  unfold wanted at hon ⊢
  split
  · rename_i hoff
    simp [hoff] at hon
  · rename_i hmay
    rw [if_neg hmay] at hon
    cases hbest : bestMode c h with
    | none => simp [hbest] at hon
    | some best => exact ⟨best.id, rfl⟩

theorem Aimed.exists_scale {heads : List Head} (ha : Aimed c heads) (hh : h ∈ heads)
    (hon : h.desired.enabled = true) : ∃ m, h.desired.scale = wantedScale c h (h.mode? m) := by
  have hp := ha.idle h hh
  have henabled := view_targeted (g := Desired.enabled) (fun _ _ _ => rfl) hp c heads
  have hscale := view_targeted (g := Desired.scale) (fun _ _ _ => rfl) hp c heads
  rw [ha.targeted hh] at henabled hscale
  rw [hscale]
  exact exists_scale_of_wanted (henabled.symm.trans hon)

end Layout

end OutputArranger
