import Mathlib.Logic.Function.Iterate
import OutputArranger.Proofs.Session.Rounds

/-!
# Convergence

With a compositor that carries every request out, a session comes to rest. Targets are computed
from scratch in every round, but they come out the same, since they do not depend on what a request
changes. So each request for a mode leaves one head fewer that needs another mode, and the first
request that is not for a mode is the last one.
-/

namespace OutputArranger.Session

/-- How many heads shall be on in another mode than their present one. -/
def modesLeft (s : Session) : Nat := s.aimed.outputs.heads.countP Request.needsMode

/-- In a round that sends a request, the count of such heads goes down, or nothing is left. -/
theorem modesLeft_round {s : Session} (hs : s.Reachable) (hc : s.computes) {r : Request}
    (hplan : Request.plan s.aimed.outputs.heads s.aimed.outputs.serial = some r) :
    s.round.modesLeft < s.modesLeft ∨
      Request.plan s.round.aimed.outputs.heads s.round.aimed.outputs.serial = none := by
  obtain ⟨_, _, hheads⟩ := round_of_plan_some hs hc hplan
  rw [modesLeft, hheads, modesLeft]
  rcases Request.progress (hs.sound.aimed_heads hc.1) hplan with hfewer | hnone
  · exact Or.inl hfewer
  · exact Or.inr (hnone _)

/-- After so many rounds, each of which sends a request, a pass finds every head as it should be. -/
structure AgreesAfter (n : Nat) (s : Session) : Prop where
  sends : ∀ i < n, ((round^[i] s).layout .always).sent.isSome = true
  reachable : (round^[n] s).Reachable
  computes : (round^[n] s).computes
  agrees : Request.plan (round^[n] s).aimed.outputs.heads
    (round^[n] s).aimed.outputs.serial = none

theorem AgreesAfter.cons {n : Nat} {s : Session} (hs : s.round.AgreesAfter n)
    (hfirst : (s.layout .always).sent.isSome = true) : s.AgreesAfter (n + 1) where
  sends := by
    intro i hi
    cases i with
    | zero => exact hfirst
    | succ i =>
        rw [Function.iterate_succ_apply]
        exact hs.sends i (by omega)
  reachable := by
    rw [Function.iterate_succ_apply]
    exact hs.reachable
  computes := by
    rw [Function.iterate_succ_apply]
    exact hs.computes
  agrees := by
    rw [Function.iterate_succ_apply]
    exact hs.agrees

/-- One request for every head that needs another mode and one for all the rest are enough. -/
theorem exists_agreesAfter {s : Session} (hs : s.Reachable) (hc : s.computes) :
    ∃ n ≤ s.modesLeft + 1, s.AgreesAfter n := by
  -- The count carries the induction: every request for a mode brings it down.
  induction hk : s.modesLeft using Nat.strongRecOn generalizing s with
  | ind k ih =>
      cases hplan : Request.plan s.aimed.outputs.heads s.aimed.outputs.serial with
      | none => exact ⟨0, by omega, by simp, hs, hc, hplan⟩
      | some r =>
          obtain ⟨hreach, hcomputes, _⟩ := round_of_plan_some hs hc hplan
          obtain ⟨n, hn, hnext⟩ : ∃ n ≤ k, s.round.AgreesAfter n := by
            rcases modesLeft_round hs hc hplan with hfewer | hnone
            · obtain ⟨n, hn, hnext⟩ := ih s.round.modesLeft (hk ▸ hfewer) hreach hcomputes rfl
              exact ⟨n, by omega, hnext⟩
            · exact ⟨0, by omega, by simp, hreach, hcomputes, hnone⟩
          have hsent := (layout_of_plan_some hc hplan .always rfl).2
          exact ⟨n + 1, by omega, hnext.cons (by rw [hsent]; rfl)⟩

/-- When every request is carried out and nothing else happens, a session that is ready, idle and
dirty comes to rest. It sends at most one request for each head that shall be on in another mode,
and one more. The pass after that sends nothing and leaves nothing to change, and neither does any
later one, whatever the compositor would have said. -/
theorem comes_to_rest {s : Session} (hs : s.Reachable) (hready : s.ready = true)
    (hidle : s.status = .idle) (hdirty : s.outputs.isDirty = true) :
    ∃ n ≤ s.aimed.outputs.heads.countP Request.needsMode + 1,
      (∀ i < n, ((round^[i] s).layout .always).sent.isSome = true) ∧
        let p := (round^[n] s).layout .always
        p.sent = none ∧ p.error = none ∧ p.session.isSettled = true ∧
          Request.plan p.session.outputs.heads p.session.outputs.serial = none ∧
          ∀ (passes : List Acceptance) (accepts : Acceptance),
            ((p.session.run (passes.map .pass)).layout accepts).sent = none := by
  have hc : s.computes :=
    computes_of_owed (by simp [hidle]) (by simp [hidle]) hready (Or.inl hdirty)
  obtain ⟨n, hn, hend⟩ := exists_agreesAfter hs hc
  obtain ⟨hrest, hsent, herror, houtputs, _⟩ :=
    layout_of_plan_none hend.computes hend.agrees .always
  refine ⟨n, hn, hend.sends, hsent, herror, ?_, ?_, ?_⟩
  · simp [isSettled, hrest.idle, hrest.clean]
  · rw [houtputs]
    exact hend.agrees
  · intro passes accepts
    exact ((hrest.run_passes passes).1.layout accepts).2.1

/-- A head that is off and has no mode yet stands beside one that is on, in a mode that is not the
best, and away from where it belongs. -/
def twoHeads : Session :=
  (start .default ⟨"cfg.toml", true, none⟩ false).run
    [.event (.headArrived ⟨1⟩), .event (.modeArrived ⟨1⟩ ⟨10⟩),
      .event (.modeReported ⟨1⟩ ⟨10⟩ (.size 1280 720)), .event (.headReported ⟨1⟩ (.enabled false)),
      .event (.headArrived ⟨2⟩), .event (.modeArrived ⟨2⟩ ⟨20⟩),
      .event (.modeReported ⟨2⟩ ⟨20⟩ (.size 1920 1080)), .event (.modeArrived ⟨2⟩ ⟨21⟩),
      .event (.modeReported ⟨2⟩ ⟨21⟩ (.size 3840 2160)),
      .event (.headReported ⟨2⟩ (.enabled true)), .event (.headReported ⟨2⟩ (.currentMode ⟨20⟩)),
      .event (.headReported ⟨2⟩ (.position 0 500)), .event (.managerDone 1)]

theorem twoHeads_reachable : twoHeads.Reachable := ⟨_, _, _, _, rfl⟩

/-- Two requests for modes and one for the position are enough, and no fewer will do. -/
theorem comes_to_rest_twoHeads :
    twoHeads.Reachable ∧ twoHeads.ready = true ∧ twoHeads.status = .idle ∧
      twoHeads.outputs.isDirty = true ∧
      ((round^[2] twoHeads).layout .always).sent.isSome = true ∧
      ((round^[3] twoHeads).layout .always).sent = none ∧
      ((round^[3] twoHeads).layout .always).session.isSettled = true ∧
      ∀ (passes : List Acceptance) (accepts : Acceptance),
        ((((round^[3] twoHeads).layout .always).session.run (passes.map .pass)).layout
          accepts).sent = none := by
  have hready : twoHeads.ready = true := by decide
  have hidle : twoHeads.status = .idle := by decide
  have hdirty : twoHeads.outputs.isDirty = true := by decide
  obtain ⟨n, hn, _, hnone, _, hsettled, _, hlater⟩ :=
    comes_to_rest twoHeads_reachable hready hidle hdirty
  have hcount : twoHeads.aimed.outputs.heads.countP Request.needsMode = 2 := by decide
  have hsome : ∀ i < 3, ((round^[i] twoHeads).layout .always).sent ≠ none := by decide
  obtain rfl : n = 3 := by
    by_contra hne
    exact hsome n (by omega) hnone
  exact ⟨twoHeads_reachable, hready, hidle, hdirty, by decide, hnone, hsettled, hlater⟩

end OutputArranger.Session
