import OutputArranger.Proofs.Session.Pass
import OutputArranger.Proofs.Session.Run

/-!
# Sessions at rest

When no request is open, nothing is marked as changed and every head knows whether the lid covers
it, a pass of the layout computes nothing and sends nothing. Whatever is still left to change stays
as it is until an event marks something.
-/

namespace OutputArranger.Session

structure AtRest (s : Session) : Prop where
  idle : s.status = .idle
  clean : s.outputs.isDirty = false
  covered : s.coverChanges = false

/-- What a computation of the layout would ask the compositor for. -/
def remaining (s : Session) : Option Request :=
  Request.plan (Layout.desire s.config s.outputs.heads) s.outputs.serial

theorem remaining_congr {s t : Session} (hc : t.config = s.config)
    (hh : t.outputs.heads = s.outputs.heads) (hn : t.outputs.serial = s.outputs.serial) :
    t.remaining = s.remaining := by
  rw [remaining, hc, hh, hn, remaining]

/-- What was computed a moment ago is not computed to be anything else. -/
theorem remaining_aimed (s : Session) :
    s.aimed.remaining = Request.plan s.aimed.outputs.heads s.aimed.outputs.serial := by
  have hagain : Layout.desire s.aimed.config s.aimed.outputs.heads = s.aimed.outputs.heads :=
    Layout.desire_desire s.refreshed.config s.refreshed.outputs.resetDirty.heads
  rw [remaining, hagain]

theorem not_computes_of_clean {s : Session} (hclean : s.outputs.isDirty = false)
    (hcover : s.coverChanges = false) : ¬ s.computes := by
  intro hc
  have hdue := hc.2.2
  rw [isDue, Bool.and_eq_true, isDirty_refreshed_iff] at hdue
  simp [hclean, hcover] at hdue

/-- A pass over a session in which nothing is marked marks nothing. -/
theorem clean_layout {s : Session} (hclean : s.outputs.isDirty = false)
    (hcover : s.coverChanges = false) (accepts : Acceptance) :
    (s.layout accepts).session.outputs.isDirty = false ∧
      (s.layout accepts).session.coverChanges = false := by
  refine ⟨?_, (s.layout_news accepts).2.1⟩
  rw [(layout_of_not_computes (not_computes_of_clean hclean hcover) accepts).1, Bool.eq_false_iff,
    ne_eq, isDirty_refreshed_iff]
  simp [hclean, hcover]

/-- A pass that finds nothing to compute ends at rest, with the heads as they were. -/
theorem layout_of_clean {s : Session} (ho : s.status ≠ .outstanding)
    (hclean : s.outputs.isDirty = false) (hcover : s.coverChanges = false)
    (accepts : Acceptance) :
    (s.layout accepts).session.AtRest ∧ (s.layout accepts).sent = none ∧
      (s.layout accepts).error = none ∧
      (s.layout accepts).session.remaining = s.remaining := by
  obtain ⟨hheads, hdirty, hserial⟩ := s.refreshed_outputs
  obtain ⟨hconfig, _⟩ := s.refreshed_environment
  rw [map_coverHead hcover] at hheads
  have hstill : s.refreshed.outputs.isDirty = false := by
    rw [Bool.eq_false_iff, ne_eq, isDirty_refreshed_iff]
    simp [hclean, hcover]
  have notDue := not_computes_of_clean hclean hcover
  have hcovered := s.coverChanges_refreshed
  have hsame : s.refreshed.remaining = s.remaining := remaining_congr hconfig hheads hserial
  cases s.layout_ending accepts with
  | waiting h => exact absurd h ho
  | agreeing h => exact absurd h notDue
  | refused _ _ h => exact absurd h notDue
  | sending _ h => exact absurd h notDue
  | standingBack _ hp hsent herror =>
      rw [hp]
      exact ⟨⟨rfl, hstill, hcovered⟩, hsent, herror, hsame⟩
  | resting _ _ _ hp hsent herror =>
      rw [hp]
      exact ⟨⟨rfl, hstill, hcovered⟩, hsent, herror, hsame⟩

/-- A pass that finds every head as it should be ends at rest. -/
theorem layout_of_plan_none {s : Session} (hc : s.computes)
    (hplan : Request.plan s.aimed.outputs.heads s.aimed.outputs.serial = none)
    (accepts : Acceptance) :
    (s.layout accepts).session.AtRest ∧ (s.layout accepts).sent = none ∧
      (s.layout accepts).error = none ∧
      (s.layout accepts).session.outputs = s.aimed.outputs ∧
      (s.layout accepts).session.remaining = none := by
  cases s.layout_ending accepts with
  | waiting ho => exact absurd ho hc.1
  | standingBack hs => exact absurd hs hc.2.1
  | resting _ _ hdue => simp [hc.2.2] at hdue
  | refused _ _ _ hsome => simp [hplan] at hsome
  | sending _ _ hsome => simp [hplan] at hsome
  | agreeing _ _ hp hsent herror =>
      refine ⟨⟨by rw [hp], ?_, ?_⟩, hsent, herror, by rw [hp], ?_⟩
      · rw [hp]
        exact s.isDirty_aimed
      · rw [hp]
        exact s.coverChanges_aimed
      · rw [hp]
        exact s.remaining_aimed.trans hplan

theorem AtRest.layout {s : Session} (hs : s.AtRest) (accepts : Acceptance) :
    (s.layout accepts).session.AtRest ∧ (s.layout accepts).sent = none ∧
      (s.layout accepts).error = none ∧
      (s.layout accepts).session.remaining = s.remaining :=
  layout_of_clean (by simp [hs.idle]) hs.clean hs.covered accepts

/-- However many passes follow, and whatever the compositor would have said. -/
theorem AtRest.run_passes {s : Session} (hs : s.AtRest) (passes : List Acceptance) :
    (s.run (passes.map .pass)).AtRest ∧
      (s.run (passes.map .pass)).remaining = s.remaining := by
  induction passes generalizing s with
  | nil => exact ⟨hs, rfl⟩
  | cons accepts rest ih =>
      obtain ⟨hnext, _, _, hsame⟩ := hs.layout accepts
      obtain ⟨hlast, hkept⟩ := ih hnext
      exact ⟨hlast, hkept.trans hsame⟩

/-- A session in which nothing is marked sends nothing however many passes follow, whatever is left
to change. -/
theorem sent_run_passes_eq_none {s : Session} (ho : s.status ≠ .outstanding)
    (hclean : s.outputs.isDirty = false) (hcover : s.coverChanges = false)
    (passes : List Acceptance) (accepts : Acceptance) :
    ((s.run (passes.map .pass)).layout accepts).sent = none ∧
      ((s.run (passes.map .pass)).layout accepts).session.remaining = s.remaining := by
  have first := layout_of_clean ho hclean hcover
  cases passes with
  | nil =>
      obtain ⟨_, hsent, _, hsame⟩ := first accepts
      exact ⟨hsent, hsame⟩
  | cons earlier rest =>
      obtain ⟨hrest, _, _, hsame⟩ := first earlier
      obtain ⟨hlast, hkept⟩ := hrest.run_passes rest
      obtain ⟨_, hsent, _, hend⟩ := hlast.layout accepts
      exact ⟨hsent, hend.trans (hkept.trans hsame)⟩

end OutputArranger.Session
