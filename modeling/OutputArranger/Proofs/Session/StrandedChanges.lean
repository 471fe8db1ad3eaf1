import OutputArranger.Proofs.Session.AtRest
import OutputArranger.Proofs.Session.OpenRequest

/-!
# Changes that wait for a change of mode

A change of mode goes out alone, and all other changes wait for it. They go out with the next pass
if something was marked as changed since the request was sent. The success of the request marks
nothing: when the compositor has reported nothing either, the changes that waited are not sent by
the next pass nor by any later one.
-/

namespace OutputArranger.Session

theorem coverChanges_succeeded {s : Session} (hs : s.outputs.ids.Nodup) :
    s.succeeded.coverChanges = s.coverChanges := by
  refine coverChanges_congr rfl rfl ?_
  rw [outputs_succeeded hs, List.map_map]
  rfl

/-- A pass that computes the layout, with a compositor that takes its request, sends what is left
to change. -/
theorem layout_of_computes {s : Session} (hs : s.computes) :
    (s.layout .always).sent.isSome = true ∨ (s.layout .always).session.remaining = none := by
  cases hplan : Request.plan s.aimed.outputs.heads s.aimed.outputs.serial with
  | some r =>
      rw [(layout_of_plan_some hs hplan .always rfl).2]
      exact Or.inl rfl
  | none =>
      obtain ⟨_, _, _, _, hnone⟩ := layout_of_plan_none hs hplan .always
      exact Or.inr hnone

/-- When the changes that waited for a change of mode go out. After the success of the request, the
next pass sends another one, or else nothing is left to change, exactly if a head was marked while
the request was open, or the lid covers other heads than before, or nothing was left anyway. In all
other cases no later pass sends anything either, and what is left stays the same. -/
theorem sent_or_nothing_remaining_iff {s : Session} (hs : s.Reachable)
    {change : HeadId × ModeId} (ho : s.transaction = some ⟨some change⟩) :
    let t := (s.handle (.resolved .succeeded)).session
    let p := t.layout .always
    ((p.sent.isSome = true ∨ p.session.remaining = none) ↔
        s.outputs.isDirty = true ∨ s.coverChanges = true ∨ t.remaining = none) ∧
      (s.outputs.isDirty = false → s.coverChanges = false →
        ∀ (passes : List Acceptance) (accepts : Acceptance),
          ((t.run (passes.map .pass)).layout accepts).sent = none ∧
            ((t.run (passes.map .pass)).layout accepts).session.remaining = t.remaining) := by
  intro t p
  have hsound := hs.sound.record (.resolved .succeeded)
  have hstatus : t.status = .succeeded := rfl
  have hready : t.ready = true := hs.sound.ready (by simp [ho])
  have hdirty : t.outputs.isDirty = s.outputs.isDirty := isDirty_succeeded hsound.distinct
  have hcover : t.coverChanges = s.coverChanges := coverChanges_succeeded hsound.distinct
  have still (hd : s.outputs.isDirty = false) (hc : s.coverChanges = false) :=
    sent_run_passes_eq_none (by simp [hstatus]) (hdirty.trans hd) (hcover.trans hc)
  refine ⟨?_, still⟩
  have marked (h : s.outputs.isDirty = true ∨ s.coverChanges = true) :
      p.sent.isSome = true ∨ p.session.remaining = none := by
    refine layout_of_computes (computes_of_owed (by simp [hstatus]) (by simp [hstatus]) hready ?_)
    rw [hdirty, hcover]
    exact h
  by_cases hd : s.outputs.isDirty = true
  · exact ⟨fun _ => Or.inl hd, fun _ => marked (Or.inl hd)⟩
  · by_cases hc : s.coverChanges = true
    · exact ⟨fun _ => Or.inr (Or.inl hc), fun _ => marked (Or.inr hc)⟩
    · rw [Bool.not_eq_true] at hd hc
      obtain ⟨hsent, hsame⟩ := still hd hc [] .always
      have hnone : p.sent = none := hsent
      have hleft : p.session.remaining = t.remaining := hsame
      rw [hnone, hleft]
      simp [hd, hc]

/-- A head changes its mode while a second one, whose place depends on the size of the first, waits
to be moved. The compositor has reported nothing since. -/
def modeInFlight : Session :=
  (start .default ⟨"cfg.toml", true, none⟩ false).run
    [.event (.headArrived ⟨1⟩), .event (.modeArrived ⟨1⟩ ⟨10⟩),
      .event (.modeReported ⟨1⟩ ⟨10⟩ (.size 1280 720)), .event (.modeArrived ⟨1⟩ ⟨11⟩),
      .event (.modeReported ⟨1⟩ ⟨11⟩ (.size 3840 2160)),
      .event (.modeReported ⟨1⟩ ⟨11⟩ .preferred), .event (.headReported ⟨1⟩ (.enabled true)),
      .event (.headReported ⟨1⟩ (.currentMode ⟨10⟩)), .event (.headReported ⟨1⟩ (.position 0 0)),
      .event (.headArrived ⟨2⟩), .event (.modeArrived ⟨2⟩ ⟨20⟩),
      .event (.modeReported ⟨2⟩ ⟨20⟩ (.size 1920 1080)),
      .event (.headReported ⟨2⟩ (.enabled true)),
      .event (.headReported ⟨2⟩ (.currentMode ⟨20⟩)), .event (.headReported ⟨2⟩ (.position 0 0)),
      .event (.managerDone 1), .pass .always]

theorem modeInFlight_reachable : modeInFlight.Reachable := ⟨_, _, _, _, rfl⟩

/-- The second head is not moved by the next pass, nor by any later one. -/
theorem sent_or_nothing_remaining_iff_modeInFlight :
    modeInFlight.Reachable ∧ modeInFlight.transaction = some ⟨some (⟨1⟩, ⟨11⟩)⟩ ∧
      ∀ (passes : List Acceptance) (accepts : Acceptance),
        (((modeInFlight.handle (.resolved .succeeded)).session.run
          (passes.map .pass)).layout accepts).sent = none := by
  have ho : modeInFlight.transaction = some ⟨some (⟨1⟩, ⟨11⟩)⟩ := by decide
  have h := (sent_or_nothing_remaining_iff modeInFlight_reachable ho).2 (by decide) (by decide)
  exact ⟨modeInFlight_reachable, ho, fun passes accepts => (h passes accepts).1⟩

theorem modeInFlight_stranded :
    modeInFlight.Reachable ∧ modeInFlight.transaction = some ⟨some (⟨1⟩, ⟨11⟩)⟩ ∧
      ((modeInFlight.handle (.resolved .succeeded)).session.layout .always).sent = none ∧
      ((modeInFlight.handle (.resolved .succeeded)).session.layout .always).session.remaining =
        some ⟨1, [.enable ⟨2⟩ ⟨256⟩ 3840 0 .normal]⟩ :=
  ⟨modeInFlight_reachable, by decide, by decide, by decide⟩

end OutputArranger.Session
