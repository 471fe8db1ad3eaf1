import OutputArranger.Proofs.RequestShape
import OutputArranger.Proofs.Session.Announcements

/-!
# After a cancellation

A request is cancelled when the state for which it was made is not current any more, and the
compositor is about to report the new one. A session stands back for one pass after that, whether or
not anything was reported until then. The next pass works with the serial that the session knows:
if the compositor has not declared a state consistent since, that is the one just cancelled.
-/

namespace OutputArranger.Session

variable {s : Session} {moves : List Move}

/-! ## What only the compositor changes -/

theorem serial_react (hs : s.Sound) {e : Event} (he : ∀ n, e ≠ .managerDone n) :
    (s.react e).session.outputs.serial = s.outputs.serial ∧
      (s.react e).session.ready = s.ready := by
  have outside {t : Session} (h : FromOutside s e t) :
      t.outputs.serial = s.outputs.serial ∧ t.ready = s.ready :=
    ⟨h.untouched.serial, h.untouched.ready⟩
  cases e with
  | managerDone n => exact absurd rfl (he n)
  | resolved outcome => exact ⟨(arrived_serial_answered hs.distinct outcome).2, rfl⟩
  | headArrived id =>
      refine ⟨?_, rfl⟩
      simp only [react, quiet, Outputs.addHead]
      split <;> rfl
  | headFinished id =>
      refine ⟨?_, rfl⟩
      simp only [react, quiet, Outputs.removeHead]
      split <;> rfl
  | configChanged c => exact outside (s.fromOutside_configChanged c)
  | lidChanged closed => exact outside (s.fromOutside_lidChanged closed)
  | command r client => exact outside (s.fromOutside_command r client)
  | _ => exact ⟨rfl, rfl⟩

theorem serial_after (hs : s.Sound) {m : Move} (hm : ∀ n, m ≠ .event (.managerDone n)) :
    (s.after m).outputs.serial = s.outputs.serial ∧ (s.after m).ready = s.ready := by
  cases m with
  | event e => exact serial_react (hs.record e) fun n he => hm n (he ▸ rfl)
  | pass accepts =>
      have hframe := s.sameFrame_layout accepts
      exact ⟨hframe.serial, hframe.ready⟩

theorem serial_run (hs : s.Sound) (hm : ∀ n, Move.event (.managerDone n) ∉ moves) :
    (s.run moves).outputs.serial = s.outputs.serial ∧ (s.run moves).ready = s.ready := by
  induction moves generalizing s with
  | nil => exact ⟨rfl, rfl⟩
  | cons m rest ih =>
      have hfirst := serial_after hs fun n h => hm n (h ▸ List.mem_cons_self)
      have hrest := ih (hs.after m) fun n h => hm n (List.mem_cons_of_mem m h)
      exact ⟨hrest.1.trans hfirst.1, hrest.2.trans hfirst.2⟩

theorem serial_of_sent {accepts : Acceptance} {r : Request}
    (hsent : (s.layout accepts).sent = some r) : r.serial = s.outputs.serial := by
  have hserial : s.aimed.outputs.serial = s.outputs.serial := s.refreshed_outputs.2.2
  obtain ⟨_, hplan⟩ := plan_of_sent hsent
  rcases Request.plan_cases hplan with ⟨_, _, _, _, _, rfl⟩ | ⟨_, _, rfl⟩
  · exact hserial
  · exact hserial

/-- Until the compositor declares a state consistent, all requests are for the last such state. -/
theorem serial_of_mem_requests (hs : s.Sound) (hm : ∀ n, Move.event (.managerDone n) ∉ moves)
    {r : Request} (hr : r ∈ s.requests moves) : r.serial = s.outputs.serial := by
  induction moves generalizing s with
  | nil => simp [requests] at hr
  | cons m rest ih =>
      rw [requests_cons, List.mem_append] at hr
      rcases hr with hfirst | hrest
      · cases m with
        | event e => simp [requests] at hfirst
        | pass accepts =>
            simp only [requests, List.append_nil, Option.mem_toList] at hfirst
            exact serial_of_sent hfirst
      · have hsame := (serial_after hs fun n h => hm n (h ▸ List.mem_cons_self)).1
        have hlater := ih (hs.after m) (fun n h => hm n (List.mem_cons_of_mem m h)) hrest
        exact hlater.trans hsame

/-! ## Standing back -/

/-- Whether a session stands back from sending after a move, when it did or did not before: after a
cancellation, until the next pass or another answer. -/
def standsBack (before : Bool) : Move → Bool
  | .pass _ => false
  | .event (.resolved outcome) => decide (outcome = .cancelled)
  | .event _ => before

theorem status_after {m : Move} (ho : s.status ≠ .outstanding) (hnone : s.requests [m] = []) :
    (s.after m).status ≠ .outstanding ∧
      decide ((s.after m).status = .cancelled) = standsBack (decide (s.status = .cancelled)) m := by
  cases m with
  | event e =>
      rcases e.eq_resolved_or with ⟨outcome, rfl⟩ | he
      · have hstatus : (s.after (.event (.resolved outcome))).status = .ofOutcome outcome := rfl
        rw [hstatus]
        cases outcome <;> simp [Status.ofOutcome, standsBack]
      · have hstatus : (s.after (.event e)).status = s.status :=
          (react_frame (s := s.record e) he).1
        rw [hstatus]
        refine ⟨ho, ?_⟩
        cases e with
        | resolved outcome => simp [Event.isAnswer] at he
        | _ => rfl
  | pass accepts =>
      rw [standsBack, after]
      cases s.layout_ending accepts with
      | waiting h => exact absurd h ho
      | standingBack _ hp => simp [hp]
      | resting _ _ _ hp => simp [hp]
      | agreeing _ _ hp => simp [hp]
      | refused _ _ _ _ _ hp => simp [hp]
      | sending r _ _ _ _ hsent => simp [requests, hsent] at hnone

theorem status_run (ho : s.status ≠ .outstanding) (hnone : s.requests moves = []) :
    (s.run moves).status ≠ .outstanding ∧
      decide ((s.run moves).status = .cancelled) =
        moves.foldl standsBack (decide (s.status = .cancelled)) := by
  induction moves generalizing s with
  | nil => exact ⟨ho, rfl⟩
  | cons m rest ih =>
      rw [requests_cons, List.append_eq_nil_iff] at hnone
      obtain ⟨hopen, hstands⟩ := status_after ho hnone.1
      obtain ⟨hlast, hfold⟩ := ih hopen hnone.2
      refine ⟨hlast, ?_⟩
      rw [run_cons, hfold, hstands, List.foldl_cons]

/-- What a pass needs in order to send a request. -/
theorem sent_eq_some_iff {accepts : Acceptance} {r : Request} :
    (s.layout accepts).sent = some r ↔
      s.computes ∧ Request.plan s.aimed.outputs.heads s.aimed.outputs.serial = some r ∧
        accepts r = none := by
  constructor
  · intro hsent
    cases s.layout_ending accepts with
    | sending q hc hplan hq _ hsome =>
        obtain rfl : q = r := Option.some.inj (hsome.symm.trans hsent)
        exact ⟨hc, hplan, hq⟩
    | _ => simp_all
  · rintro ⟨hc, hplan, hr⟩
    exact (layout_of_plan_some hc hplan accepts hr).2

/-- What a session sends after a cancellation before the compositor has declared a state consistent.
All such requests are for the state for which the request was cancelled. The first of them is sent
by any pass but the one that stands back, if there is something left to change. The cancellation
itself is reason enough to look for it, unless it was one too many in a row. -/
theorem sent_after_cancellation_iff (hs : s.Reachable)
    (hstale : ∀ n, Move.event (.managerDone n) ∉ moves) :
    let c := (s.handle (.resolved .cancelled)).session
    let t := c.run moves
    (∀ r ∈ c.requests moves, r.serial = s.outputs.serial) ∧
      (c.requests moves = [] → ∀ accepts r,
        ((t.layout accepts).sent = some r ↔
          moves.foldl standsBack true = false ∧ s.ready = true ∧
            (t.outputs.isDirty = true ∨ t.coverChanges = true) ∧
            Request.plan t.aimed.outputs.heads s.outputs.serial = some r ∧ accepts r = none)) ∧
      (s.outputs.retries < maxRetries → t.outputs.isDirty = true ∨ c.Sometime Computing moves ∨
        c.Sometime GivingUp moves) := by
  intro c t
  have hrecorded := hs.sound.record (.resolved .cancelled)
  have hsound : c.Sound := hs.sound.handle (.resolved .cancelled)
  have hcancelled : c.outputs.serial = s.outputs.serial ∧ c.ready = s.ready :=
    serial_react hrecorded (by simp)
  obtain ⟨hserial, hready⟩ := serial_run hsound hstale
  refine ⟨?_, ?_, ?_⟩
  · intro r hr
    exact (serial_of_mem_requests hsound hstale hr).trans hcancelled.1
  · intro hnone accepts r
    have hstatus : c.status = .cancelled := rfl
    obtain ⟨hopen, hstands⟩ := status_run (s := c) (by simp [hstatus]) hnone
    have haimed : t.aimed.outputs.serial = s.outputs.serial :=
      (t.refreshed_outputs.2.2.trans hserial).trans hcancelled.1
    have hcomputes : t.computes ↔ moves.foldl standsBack true = false ∧ s.ready = true ∧
        (t.outputs.isDirty = true ∨ t.coverChanges = true) := by
      rw [hstatus] at hstands
      rw [computes, isDue, t.refreshed_frame.2.2, Bool.and_eq_true, isDirty_refreshed_iff,
        hready.trans hcancelled.2, and_iff_right hopen, ne_eq, ← decide_eq_false_iff_not, hstands]
      rfl
    rw [sent_eq_some_iff, hcomputes, haimed, and_assoc, and_assoc]
  · intro hleft
    have hmarked : c.outputs.dirty = true := by
      have hcancel : Outcome.cancelled ≠ .succeeded := by simp
      have hout := outputs_unsuccessful hrecorded.distinct hcancel
      have hle : s.outputs.retries + 1 ≤ maxRetries := hleft
      rw [if_pos (show (s.record _).outputs.retries + 1 ≤ maxRetries from hle)] at hout
      exact congrArg Outputs.dirty hout
    refine (dirty_run hsound hmarked moves).imp_left fun hdirty => ?_
    exact (Outputs.isDirty_iff _).mpr (Or.inl hdirty)

/-- A head is on its way to the origin. -/
def movedInFlight : Session :=
  (start .default ⟨"cfg.toml", true, none⟩ false).run
    [.event (.headArrived ⟨1⟩), .event (.modeArrived ⟨1⟩ ⟨10⟩),
      .event (.modeReported ⟨1⟩ ⟨10⟩ (.size 1920 1080)), .event (.headReported ⟨1⟩ (.enabled true)),
      .event (.headReported ⟨1⟩ (.currentMode ⟨10⟩)), .event (.headReported ⟨1⟩ (.position 100 0)),
      .event (.managerDone 1), .pass .always]

theorem movedInFlight_reachable : movedInFlight.Reachable := ⟨_, _, _, _, rfl⟩

/-- A client that asks for the configuration between two passes. -/
def wokenByClient : List Move := [.pass .always, .event (.command .getConfig none)]

/-- The pass that follows asks for the same once more, for the state that is out of date. -/
theorem sent_after_cancellation_iff_movedInFlight :
    movedInFlight.Reachable ∧ (∀ n, Move.event (.managerDone n) ∉ wokenByClient) ∧
      (((movedInFlight.handle (.resolved .cancelled)).session.run wokenByClient).layout
        .always).sent = some ⟨1, [.enable ⟨1⟩ ⟨256⟩ 0 0 .normal]⟩ := by
  have hstale (n : Nat) : Move.event (.managerDone n) ∉ wokenByClient := by simp [wokenByClient]
  have h := (sent_after_cancellation_iff movedInFlight_reachable hstale).2.1 (by decide)
  refine ⟨movedInFlight_reachable, hstale, (h _ _).mpr ⟨rfl, ?_, Or.inl ?_, ?_, rfl⟩⟩
  · decide
  · decide
  · decide

theorem movedInFlight_asked_again :
    let c := (movedInFlight.handle (.resolved .cancelled)).session
    movedInFlight.Reachable ∧ movedInFlight.transaction.isSome = true ∧
      movedInFlight.outputs.serial = 1 ∧
      (∀ n, Move.event (.managerDone n) ∉ wokenByClient ++ [.pass .always]) ∧
      c.requests (wokenByClient ++ [.pass .always]) = [⟨1, [.enable ⟨1⟩ ⟨256⟩ 0 0 .normal]⟩] :=
  ⟨movedInFlight_reachable, by decide, by decide, by simp [wokenByClient], by decide⟩

end OutputArranger.Session
