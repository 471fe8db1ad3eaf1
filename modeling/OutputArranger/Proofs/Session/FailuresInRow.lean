import Mathlib.Data.List.Induction
import OutputArranger.Proofs.Session.OpenRequest
import OutputArranger.Proofs.Session.Refusal

/-!
# Failures in a row

The changes are given up once more requests in a row have come to nothing than is allowed, and
whatever is new from outside makes the count begin anew. So a session has given up exactly when it
has counted too many, and all that it has counted came to nothing since the last success.
-/

namespace OutputArranger

/-- Whether a move is the answer to a request that came to nothing. -/
def Move.isFailure : Move → Bool
  | .event (.resolved outcome) => outcome != .succeeded
  | _ => false

namespace Session

variable {s : Session}

/-- An event that is no answer leaves the count as it is or makes it begin anew. -/
theorem count_react {e : Event} (he : e.isAnswer = false) :
    ((s.react e).session.abandoned = s.abandoned ∧
        (s.react e).session.outputs.retries = s.outputs.retries) ∨
      ((s.react e).session.abandoned = false ∧ (s.react e).session.outputs.retries = 0) := by
  have outside {t : Session} (h : FromOutside s e t) :
      (t.abandoned = s.abandoned ∧ t.outputs.retries = s.outputs.retries) ∨
        (t.abandoned = false ∧ t.outputs.retries = 0) := by
    cases h with
    | ignored ht => subst ht; exact Or.inl ⟨rfl, rfl⟩
    | adopting c clients ht => subst ht; exact Or.inr ⟨rfl, rfl⟩
    | writing client _ ht => subst ht; exact Or.inl ⟨rfl, rfl⟩
    | moving closed ht => subst ht; exact Or.inl ⟨rfl, rfl⟩
    | covering closed ht => subst ht; exact Or.inr ⟨rfl, rfl⟩
  cases e with
  | resolved outcome => simp [Event.isAnswer] at he
  | headArrived id =>
      refine Or.inl ⟨rfl, ?_⟩
      simp only [react, quiet, Outputs.addHead]
      split <;> rfl
  | headFinished id =>
      refine Or.inl ⟨rfl, ?_⟩
      simp only [react, quiet, Outputs.removeHead]
      split <;> rfl
  | configChanged c => exact outside (s.fromOutside_configChanged c)
  | lidChanged closed => exact outside (s.fromOutside_lidChanged closed)
  | command r client => exact outside (s.fromOutside_command r client)
  | _ => exact Or.inl ⟨rfl, rfl⟩

theorem abandoned_refreshed (s : Session) :
    s.refreshed.abandoned = if s.hasNews then false else s.abandoned := by
  unfold refreshed
  cases s.hasNews <;> rfl

theorem abandoned_layout (s : Session) (accepts : Acceptance) :
    (s.layout accepts).session.abandoned = if s.hasNews then false else s.abandoned := by
  have hfresh := s.abandoned_refreshed
  cases s.layout_ending accepts with
  | waiting _ hp => rw [hp]; exact hfresh
  | standingBack _ hp => rw [hp]; exact hfresh
  | resting _ _ _ hp => rw [hp]; exact hfresh
  | agreeing _ _ hp => rw [hp]; exact hfresh
  | refused _ _ _ _ _ hp => rw [hp]; exact hfresh
  | sending _ _ _ _ hp => rw [hp]; exact hfresh

/-- A session has given up exactly when it has counted more failures than are allowed. -/
structure Counting (s : Session) : Prop where
  sound : s.Sound
  abandoned_eq : s.abandoned = decide (maxRetries < s.outputs.retries)

theorem Counting.handle (hs : s.Counting) (e : Event) : (s.handle e).session.Counting := by
  refine ⟨hs.sound.handle e, ?_⟩
  rcases e.eq_resolved_or with ⟨outcome, rfl⟩ | he
  · have hdistinct := (hs.sound.record (.resolved outcome)).distinct
    by_cases hsuccess : outcome = .succeeded
    · subst hsuccess
      have houtputs := outputs_succeeded hdistinct
      have habandoned := (s.record (.resolved .succeeded)).abandoned_succeeded
      rw [succeeded] at houtputs habandoned
      rw [Session.handle, habandoned, houtputs]
      rfl
    · rw [Session.handle, abandoned_unsuccessful hdistinct hsuccess,
        retries_unsuccessful hdistinct hsuccess]
  · rcases count_react (s := s.record e) he with ⟨habandoned, hretries⟩ | ⟨habandoned, hretries⟩
    · rw [Session.handle, habandoned, hretries]
      exact hs.abandoned_eq
    · rw [Session.handle, habandoned, hretries]
      rfl

theorem Counting.layout (hs : s.Counting) (accepts : Acceptance) :
    (s.layout accepts).session.Counting := by
  refine ⟨hs.sound.layout accepts, ?_⟩
  rw [s.abandoned_layout accepts, (s.layout_news accepts).2.2]
  cases s.hasNews with
  | true => rfl
  | false => exact hs.abandoned_eq

theorem Reachable.abandoned_eq (hs : s.Reachable) :
    s.abandoned = decide (maxRetries < s.outputs.retries) :=
  (hs.invariant (P := Counting) (fun c f r => ⟨sound_start c f r, rfl⟩) (fun _ e h => h.handle e)
    fun _ accepts h => h.layout accepts).abandoned_eq

/-- Only the answer to a request that came to nothing is counted, and a success makes the count
begin anew. -/
theorem retries_after (hs : s.Sound) (m : Move) :
    (s.after m).outputs.retries ≤ s.outputs.retries + (if m.isFailure then 1 else 0) ∧
      (m = .event (.resolved .succeeded) → (s.after m).outputs.retries = 0) := by
  cases m with
  | pass accepts =>
      refine ⟨?_, by simp⟩
      rw [after, (s.layout_news accepts).2.2]
      split <;> omega
  | event e =>
      rcases e.eq_resolved_or with ⟨outcome, rfl⟩ | he
      · have hdistinct := (hs.record (.resolved outcome)).distinct
        by_cases hsuccess : outcome = .succeeded
        · subst hsuccess
          have houtputs := congrArg Outputs.retries (outputs_succeeded hdistinct)
          exact ⟨Nat.le_trans (Nat.le_of_eq houtputs) (Nat.zero_le _), fun _ => houtputs⟩
        · have hcounted := retries_unsuccessful hdistinct hsuccess
          have hfailure : (Move.event (.resolved outcome)).isFailure = true :=
            bne_iff_ne.mpr hsuccess
          rw [hfailure]
          exact ⟨Nat.le_of_eq hcounted, by simp [hsuccess]⟩
      · have hnot : e ≠ .resolved .succeeded := fun h => by simp [h, Event.isAnswer] at he
        refine ⟨?_, by simp [hnot]⟩
        rcases count_react (s := s.record e) he with ⟨_, hretries⟩ | ⟨_, hretries⟩
        · exact Nat.le_trans (Nat.le_of_eq hretries) (Nat.le_add_right _ _)
        · exact Nat.le_trans (Nat.le_of_eq hretries) (Nat.zero_le _)

/-- If nothing was counted at first, then everything that a run has counted came to nothing in the
last part of it, and nothing has succeeded there. -/
theorem exists_failures (hs : s.Sound) (hnone : s.outputs.retries = 0) (moves : List Move) :
    ∃ first last, moves = first ++ last ∧ Move.event (.resolved .succeeded) ∉ last ∧
      (s.run moves).outputs.retries ≤ last.countP Move.isFailure := by
  -- The last move is looked at first, since a success ends the part that counts.
  induction moves using List.reverseRecOn with
  | nil => exact ⟨[], [], rfl, List.not_mem_nil, Nat.le_of_eq hnone⟩
  | append_singleton before m ih =>
      obtain ⟨first, last, hbefore, hno, hcounted⟩ := ih
      have hsound : (s.run before).Sound :=
        run_preserves (P := Sound) (fun _ e h => h.handle e) (fun _ accepts h => h.layout accepts)
          hs before
      obtain ⟨hmore, hanew⟩ := retries_after hsound m
      rw [run_append, run_cons, run_nil]
      by_cases hm : m = .event (.resolved .succeeded)
      · exact ⟨before ++ [m], [], (List.append_nil _).symm, List.not_mem_nil,
          Nat.le_of_eq (hanew hm)⟩
      · refine ⟨first, last ++ [m], by rw [hbefore, List.append_assoc], ?_, ?_⟩
        · simp [hno, Ne.symm hm]
        · rw [List.countP_append, List.countP_singleton]
          exact Nat.le_trans hmore (Nat.add_le_add_right hcounted _)

end Session

end OutputArranger
