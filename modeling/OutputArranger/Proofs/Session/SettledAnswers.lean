import OutputArranger.Proofs.Session.Announcements
import OutputArranger.Proofs.Session.Answers

/-!
# What the word of success is worth

A client whose change was taken over is told of success by the first pass that leaves no request
open, unless the changes were given up. If that pass computed the layout, it has found every head as
it should be. But it need not have computed anything: before the compositor has declared its state
consistent no pass does, and later none does for which nothing is marked. A pass of the first kind
answers while the change still waits to be laid out, and one of the second kind while something may
be left to change that a success did not mark or that the compositor refused to take.
-/

namespace OutputArranger.Session

variable {s : Session} {accepts : Acceptance} {client : Ticket} {shown : Snapshot}

/-- A pass that tells of success computed the layout and found nothing to change, or else it
computed nothing. It shows the state in which it ends. -/
theorem success_cases (hm : (client, Reply.success shown) ∈ (s.layout accepts).replies) :
    shown = (s.layout accepts).session.snapshot ∧
      (s.layout accepts).session.status = .idle ∧ s.status ≠ .outstanding ∧ s.status ≠ .cancelled ∧
      (s.computes ∧ (s.layout accepts).session.outputs.isDirty = false ∧
          (s.layout accepts).session.remaining = none ∨
        s.refreshed.isDue = false ∧
          (s.layout accepts).session.outputs = s.refreshed.outputs) := by
  cases layout_replying s accepts with
  | silent _ hnobody => simp [hnobody] at hm
  | answering hok hclosed hnot hreplies =>
      have hshown : shown = (s.layout accepts).session.snapshot := by
        rw [hreplies, List.mem_map] at hm
        obtain ⟨_, _, heq⟩ := hm
        have hreply := (Prod.mk.inj heq).2
        unfold settledReply at hreply
        split at hreply
        · contradiction
        · exact (Reply.success.inj hreply).symm
      refine ⟨hshown, ?_⟩
      cases s.layout_ending accepts with
      | waiting ho hp => exact absurd (hp ▸ s.refreshed_frame.1.trans ho) hclosed
      | standingBack hc => exact absurd hc hnot
      | refused _ e _ _ _ _ _ herror => simp [herror] at hok
      | sending _ _ _ _ hp => exact absurd (by rw [hp]) hclosed
      | resting ho hc hdue hp => exact ⟨by rw [hp], ho, hc, Or.inr ⟨hdue, by rw [hp]⟩⟩
      | agreeing hc hplan hp =>
          obtain ⟨hrest, _, _, _, hnone⟩ := layout_of_plan_none hc hplan accepts
          exact ⟨hrest.idle, hc.1, hc.2.1, Or.inl ⟨hc, hrest.clean, hnone⟩⟩

theorem isSettled_of_idle (hs : s.status = .idle) : s.isSettled = !s.outputs.isDirty := by
  rw [isSettled, hs]
  rfl

theorem isDirty_refreshed_eq_false_iff :
    s.refreshed.outputs.isDirty = false ↔ s.outputs.isDirty = false ∧ s.coverChanges = false := by
  rw [← Bool.not_eq_true, isDirty_refreshed_iff, not_or, Bool.not_eq_true, Bool.not_eq_true]

/-- The session is settled when a client is told of success, unless a mark has stayed because the
compositor has not declared its state consistent yet. -/
theorem isSettled_of_success_iff
    (hm : (client, Reply.success shown) ∈ (s.layout accepts).replies) :
    (s.layout accepts).session.isSettled = true ↔
      s.ready = true ∨ s.outputs.isDirty = false ∧ s.coverChanges = false := by
  obtain ⟨_, hidle, _, _, hcases⟩ := success_cases hm
  rw [isSettled_of_idle hidle]
  rcases hcases with ⟨hc, hclean, _⟩ | ⟨hdue, hsame⟩
  · have hready : s.ready = true := by
      have hdue := hc.2.2
      rw [isDue, Bool.and_eq_true, s.refreshed_frame.2.2] at hdue
      exact hdue.1
    simp [hclean, hready]
  · rw [isDue, Bool.and_eq_false_iff, s.refreshed_frame.2.2] at hdue
    rw [hsame, Bool.not_eq_true', isDirty_refreshed_eq_false_iff, iff_or_self]
    intro hready
    rw [← isDirty_refreshed_eq_false_iff]
    exact hdue.resolve_left (by simp [hready])

/-- Nothing is left to change when a client is told of success, if the pass has computed the layout,
or if nothing was marked and nothing was left before. -/
theorem settled_of_success_iff (hm : (client, Reply.success shown) ∈ (s.layout accepts).replies) :
    ((s.layout accepts).session.isSettled = true ∧ (s.layout accepts).session.remaining = none) ↔
      s.computes ∨
        s.outputs.isDirty = false ∧ s.coverChanges = false ∧ s.remaining = none := by
  obtain ⟨_, hidle, ho, hnot, hcases⟩ := success_cases hm
  rw [isSettled_of_idle hidle]
  rcases hcases with ⟨hc, hclean, hnone⟩ | ⟨hdue, hsame⟩
  · simp [hclean, hnone, hc]
  · have hrests : ¬ s.computes := fun hc => by simp [hc.2.2] at hdue
    rw [hsame, Bool.not_eq_true', isDirty_refreshed_eq_false_iff, or_iff_right hrests, and_assoc]
    refine and_congr_right fun hclean => and_congr_right fun hcover => ?_
    rw [(layout_of_clean ho hclean hcover accepts).2.2.2]

/-- What it means that the client of a change that was taken over is told of success. It is shown
the state in which the pass ends. That state is settled exactly if the compositor had declared its
state consistent by then, or nothing was marked. It is settled and leaves nothing to change exactly
if the pass computed the layout, or nothing was marked and nothing was left to change before. And
once the compositor has declared its state consistent, the layout has been computed since the
change, or the changes were given up in between. -/
theorem success_answer_settled_iff (hs : s.Reachable) {command : ConfigCommand}
    (hadmits : s.admits (.apply command) = true) (moves : List Move)
    (hm : (client, Reply.success shown) ∈
      (((s.handle (.command (.apply command) (some client))).session.run moves).layout
        accepts).replies) :
    let changed := (s.handle (.command (.apply command) (some client))).session
    let t := changed.run moves
    let p := t.layout accepts
    shown = p.session.snapshot ∧
      (p.session.isSettled = true ↔
        t.ready = true ∨ t.outputs.isDirty = false ∧ t.coverChanges = false) ∧
      (p.session.isSettled = true ∧ p.session.remaining = none ↔
        t.computes ∨ t.outputs.isDirty = false ∧ t.coverChanges = false ∧ t.remaining = none) ∧
      (t.ready = true →
        changed.Sometime Computing (moves ++ [.pass accepts]) ∨
          changed.Sometime GivingUp moves) := by
  intro changed t p
  obtain ⟨hshown, _, ho, hnot, _⟩ := success_cases hm
  refine ⟨hshown, isSettled_of_success_iff hm, settled_of_success_iff hm, fun hready => ?_⟩
  have hdirty : changed.outputs.dirty = true :=
    congrArg Outputs.dirty (outputs_of_admits hadmits (some client))
  rw [sometime_append]
  rcases dirty_run (hs.sound.handle _) hdirty moves with
    hmarked | hcomputing | hgiving
  · have howed : t.outputs.isDirty = true := (Outputs.isDirty_iff _).mpr (Or.inl hmarked)
    exact Or.inl (Or.inr (Or.inl (computes_of_owed ho hnot hready (Or.inl howed))))
  · exact Or.inl (Or.inl hcomputing)
  · exact Or.inr hgiving

/-- A head is to be moved. The compositor has not declared its state consistent yet. -/
def misplaced : Session :=
  (start .default ⟨"cfg.toml", true, none⟩ false).run
    [.event (.headArrived ⟨1⟩), .event (.modeArrived ⟨1⟩ ⟨10⟩),
      .event (.modeReported ⟨1⟩ ⟨10⟩ (.size 1920 1080)),
      .event (.headReported ⟨1⟩ (.enabled true)), .event (.headReported ⟨1⟩ (.currentMode ⟨10⟩)),
      .event (.headReported ⟨1⟩ (.position 100 0))]

theorem misplaced_reachable : misplaced.Reachable := ⟨_, _, _, _, rfl⟩

/-- The session after the change of a client was taken over. -/
def misplacedChanged : Session :=
  (misplaced.handle (.command (.apply (.setAutoScale false)) (some 7))).session

/-- The compositor declares its state consistent, but does not take the request. -/
def refusedOnce : List Move :=
  [.event (.managerDone 1), .pass fun _ => some (.compositor "lost")]

/-- The next pass computes nothing. The session is settled when it tells of success, but the head
has not been moved. -/
theorem success_answer_settled_iff_misplaced :
    misplaced.Reachable ∧
      (7, Reply.success ((misplacedChanged.run refusedOnce).layout .always).session.snapshot) ∈
        ((misplacedChanged.run refusedOnce).layout .always).replies ∧
      ((misplacedChanged.run refusedOnce).layout .always).session.isSettled = true ∧
      ((misplacedChanged.run refusedOnce).layout .always).session.remaining ≠ none := by
  have hadmits : misplaced.admits (.apply (.setAutoScale false)) = true := by decide
  have hm :
      (7, Reply.success ((misplacedChanged.run refusedOnce).layout .always).session.snapshot) ∈
      ((misplacedChanged.run refusedOnce).layout .always).replies := by decide
  obtain ⟨_, hsettled, hdone, _⟩ :=
    success_answer_settled_iff misplaced_reachable hadmits refusedOnce hm
  have hstays := hsettled.mpr (Or.inl (by decide))
  refine ⟨misplaced_reachable, hm, hstays, fun hnone => ?_⟩
  rcases hdone.mp ⟨hstays, hnone⟩ with ⟨_, _, hdue⟩ | ⟨_, _, hleft⟩
  · exact absurd hdue (by decide)
  · exact absurd hleft (by decide)

/-- Without the word of the compositor the client is told of success before anything was laid
out. -/
theorem misplaced_told_early :
    misplaced.Reachable ∧
      (misplacedChanged.layout .always).replies =
        [(7, .success (misplacedChanged.layout .always).session.snapshot)] ∧
      (misplacedChanged.layout .always).session.isSettled = false ∧
      (misplacedChanged.layout .always).session.remaining =
        some ⟨0, [.enable ⟨1⟩ ⟨256⟩ 0 0 .normal]⟩ :=
  ⟨misplaced_reachable, by decide, by decide, by decide⟩

end OutputArranger.Session
