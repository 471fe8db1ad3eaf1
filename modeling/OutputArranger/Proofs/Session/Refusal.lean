import OutputArranger.Proofs.Session.Pass

/-!
# Requests that come to nothing

A request that failed or was cancelled closes like one that was carried out, but it counts as a
failed attempt. As long as there are not too many of these in a row the session is marked, so that
the next pass makes another attempt; after that every mark is wiped out.
-/

namespace OutputArranger

/-- A head once its part in a request has come to nothing. -/
def Transaction.undone (outcome : Outcome) (modeChange : Option (HeadId × ModeId)) (h : Head) :
    Head :=
  match outcome, modeChange with
  | .failed, some (id, m) =>
      if h.id = id then { failMode m h with pending := .none } else { h with pending := .none }
  | _, _ => { h with pending := .none }

/-- A view of heads that shows neither modes refused and in use nor what is pending shows nothing of
it. -/
theorem Transaction.view_undone {α : Type} {g : Head → α}
    (hg : ∀ (h : Head) (failed : List ModeId) (current : Option ModeId) (pending : Pending),
      g { h with failedModes := failed, currentMode := current, pending := pending } = g h)
    (outcome : Outcome) (modeChange : Option (HeadId × ModeId)) (h : Head) :
    g (undone outcome modeChange h) = g h := by
  have hpending : g { h with pending := .none } = g h := hg h h.failedModes h.currentMode .none
  unfold undone
  split
  · split
    · exact hg h _ _ _
    · exact hpending
  · exact hpending

/-- What was asked of the head does not matter any more. -/
theorem Transaction.undone_pending (outcome : Outcome) (modeChange : Option (HeadId × ModeId))
    (h : Head) (p : Pending) :
    undone outcome modeChange { h with pending := p } = undone outcome modeChange h := by
  unfold undone
  split
  · split <;> rfl
  · rfl

/-- The outputs after one more failed attempt. -/
def Transaction.attempted (o : Outputs) (outcome : Outcome)
    (modeChange : Option (HeadId × ModeId)) : Outputs :=
  { o with heads := o.heads.map (undone outcome modeChange), retries := o.retries + 1 }

theorem Transaction.resolve_unsuccessful {o : Outputs} (ho : o.ids.Nodup)
    (modeChange : Option (HeadId × ModeId)) {outcome : Outcome} (h : outcome ≠ .succeeded) :
    resolve o modeChange outcome =
      if o.retries + 1 ≤ maxRetries then
        ({ attempted o outcome modeChange with dirty := true }, true)
      else ((attempted o outcome modeChange).resetDirty, false) := by
  have counted {p : Outputs} (hp : p.countRetry = attempted o outcome modeChange) :
      (if p.countRetry.mayRetry then ({ p.countRetry with dirty := true }, true)
        else (p.countRetry.resetDirty, false)) =
      if o.retries + 1 ≤ maxRetries then
        ({ attempted o outcome modeChange with dirty := true }, true)
      else ((attempted o outcome modeChange).resetDirty, false) := by
    have hmay : p.countRetry.mayRetry = decide (o.retries + 1 ≤ maxRetries) := by
      rw [hp]
      rfl
    rw [hmay, hp]
    by_cases hleft : o.retries + 1 ≤ maxRetries <;> simp [hleft]
  cases outcome with
  | succeeded => exact absurd rfl h
  | cancelled => exact counted rfl
  | failed =>
      cases modeChange with
      | none => exact counted rfl
      | some change =>
          refine counted (p := o.resetPending.updateHead change.1 (failMode change.2)) ?_
          have hids : o.resetPending.ids.Nodup := by
            simp only [Outputs.ids, Outputs.resetPending, Outputs.mapHeads, List.map_map]
            exact ho
          have hheads := Outputs.heads_updateHead hids change.1 (failMode change.2)
          have hundone : (o.resetPending.heads.map fun a =>
                if a.id = change.1 then failMode change.2 a else a) =
              o.heads.map (undone .failed (some change)) := by
            simp only [Outputs.resetPending, Outputs.mapHeads, List.map_map]
            refine List.map_congr_left fun a _ => ?_
            by_cases ha : a.id = change.1 <;> simp [undone, failMode, ha]
          rw [hundone] at hheads
          simp only [attempted, ← hheads]
          rfl

namespace Session

variable {s : Session} {outcome : Outcome}

/-- An answer leaves alone what is no part of the open request. -/
theorem answered_frame (s : Session) (outcome : Outcome) :
    (s.react (.resolved outcome)).session.transaction = none ∧
      (s.react (.resolved outcome)).session.status = .ofOutcome outcome ∧
      (s.react (.resolved outcome)).session.config = s.config ∧
      (s.react (.resolved outcome)).session.lidClosed = s.lidClosed ∧
      (s.react (.resolved outcome)).session.ready = s.ready := ⟨rfl, rfl, rfl, rfl, rfl⟩

theorem outputs_unsuccessful (hs : s.outputs.ids.Nodup) (h : outcome ≠ .succeeded) :
    (s.react (.resolved outcome)).session.outputs =
      let o := Transaction.attempted s.outputs outcome (s.transaction.bind (·.modeChange))
      if s.outputs.retries + 1 ≤ maxRetries then { o with dirty := true } else o.resetDirty := by
  simp only [react, resolve, quiet, Transaction.resolve_unsuccessful hs _ h]
  split <;> rfl

/-- The changes are given up when the last attempt that was allowed has failed. -/
theorem abandoned_unsuccessful (hs : s.outputs.ids.Nodup) (h : outcome ≠ .succeeded) :
    (s.react (.resolved outcome)).session.abandoned =
      decide (maxRetries < s.outputs.retries + 1) := by
  simp only [react, resolve, quiet, Transaction.resolve_unsuccessful hs _ h]
  split <;> simp <;> omega

theorem retries_unsuccessful (hs : s.outputs.ids.Nodup) (h : outcome ≠ .succeeded) :
    (s.react (.resolved outcome)).session.outputs.retries = s.outputs.retries + 1 := by
  rw [outputs_unsuccessful hs h]
  dsimp only
  split <;> rfl

/-- A failed attempt marks the outputs, unless it was the last one. -/
theorem isDirty_unsuccessful (hs : s.outputs.ids.Nodup) (h : outcome ≠ .succeeded) :
    (s.react (.resolved outcome)).session.outputs.isDirty =
      decide (s.outputs.retries + 1 ≤ maxRetries) := by
  rw [outputs_unsuccessful hs h]
  dsimp only
  split
  · rename_i hleft
    simp [Outputs.isDirty, hleft]
  · rename_i hspent
    simp [hspent]

/-- An answer changes neither which heads are to be reported nor the number of the state. -/
theorem arrived_serial_answered (hs : s.outputs.ids.Nodup) (outcome : Outcome) :
    (s.react (.resolved outcome)).session.outputs.arrived = s.outputs.arrived ∧
      (s.react (.resolved outcome)).session.outputs.serial = s.outputs.serial := by
  by_cases hsuccess : outcome = .succeeded
  · subst hsuccess
    have hout := outputs_succeeded hs
    rw [succeeded] at hout
    rw [hout]
    exact ⟨rfl, rfl⟩
  · rw [outputs_unsuccessful hs hsuccess]
    dsimp only
    split <;> exact ⟨rfl, rfl⟩

theorem hasNews_unsuccessful (hs : s.outputs.ids.Nodup) (h : outcome ≠ .succeeded) :
    (s.react (.resolved outcome)).session.hasNews = s.hasNews := by
  rw [hasNews, hasNews, outputs_unsuccessful hs h]
  dsimp only
  split <;> rfl

theorem coverChanges_unsuccessful (hs : s.outputs.ids.Nodup) (h : outcome ≠ .succeeded) :
    (s.react (.resolved outcome)).session.coverChanges = s.coverChanges := by
  have undone := Transaction.view_undone (g := fun a => (a.lidClosed, a.name)) (fun _ _ _ _ => rfl)
    outcome
  refine coverChanges_congr rfl rfl ?_
  rw [outputs_unsuccessful hs h]
  dsimp only
  split
  · simp only [Transaction.attempted, List.map_map]
    exact List.map_congr_left fun a _ => undone _ a
  · simp only [Transaction.attempted, Outputs.resetDirty, List.map_map]
    exact List.map_congr_left fun a _ => undone _ a

/-- As long as another attempt is allowed, no answer is a reason to give up. -/
theorem abandoned_of_lt (hs : s.outputs.ids.Nodup) (hlt : s.outputs.retries < maxRetries)
    (outcome : Outcome) : (s.react (.resolved outcome)).session.abandoned = false := by
  by_cases h : outcome = .succeeded
  · subst h
    exact s.abandoned_succeeded
  · rw [abandoned_unsuccessful hs h, decide_eq_false_iff_not]
    omega

end Session

end OutputArranger
