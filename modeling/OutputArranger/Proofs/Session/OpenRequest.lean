import OutputArranger.Proofs.Session.Pass
import OutputArranger.Proofs.Session.Run

/-!
# One request at a time

Whether a request is open is kept in three places: in the status of the session, in what is
remembered of the request, and in the pending properties of the heads. In every reachable session
the three agree. Since a pass sends nothing while the status says that a request is open, and only
an answer changes that, two requests that the compositor took have an answer between them.
-/

namespace OutputArranger.Session

/-- The three places agree. Two facts that hold along with it are needed wherever a request is
carried out: handles are different, and a request is opened only for a state that the compositor
has declared consistent. -/
structure Sound (s : Session) : Prop where
  outstanding_iff : s.status = .outstanding ↔ s.transaction.isSome = true
  closed : s.transaction = none → ∀ p ∈ s.outputs.stakes, p.2 = Pending.none
  distinct : s.outputs.ids.Nodup
  ready : s.transaction.isSome = true → s.ready = true

theorem Sound.pending_eq_none {s : Session} (hs : s.Sound) (ht : s.transaction = none) {h : Head}
    (hh : h ∈ s.outputs.heads) : h.pending = Pending.none :=
  hs.closed ht h.stake (List.mem_map_of_mem hh)

theorem sound_start (config : Config) (file : ConfigFile) (recorded : Bool) :
    (start config file recorded).Sound where
  outstanding_iff := by simp [start]
  closed := fun _ p hp => by simp [start, Outputs.stakes, Outputs.empty] at hp
  distinct := List.nodup_nil
  ready := by simp [start]

theorem Sound.record {s : Session} (hs : s.Sound) (e : Event) : (s.record e).Sound :=
  ⟨hs.outstanding_iff, hs.closed, hs.distinct, hs.ready⟩

/-- Handles stay different: an event brings at most a new one. -/
theorem nodup_ids_react {s : Session} (hids : s.outputs.ids.Nodup) (e : Event) :
    (s.react e).session.outputs.ids.Nodup := by
  rcases e.eq_resolved_or with ⟨outcome, rfl⟩ | he
  · rw [Outputs.ids_eq_map_stakes, s.stakes_react_resolved outcome, List.map_map]
    exact (List.map_id s.outputs.ids).symm ▸ hids
  · rw [Outputs.ids_eq_map_stakes] at hids ⊢
    rcases stakes_react (s := s) he with hsub | ⟨id, hnew, happ⟩
    · exact (hsub.map Prod.fst).nodup hids
    · rw [Outputs.ids_eq_map_stakes] at hnew
      rw [happ, List.map_append, List.nodup_append]
      refine ⟨hids, by simp, ?_⟩
      intro a ha b hb hab
      simp only [List.map_cons, List.map_nil, List.mem_singleton] at hb
      exact hnew (hb ▸ hab ▸ ha)

/-- An answer closes the request, whether or not there was one. -/
theorem Sound.answered {s : Session} (hs : s.Sound) (outcome : Outcome) :
    (s.react (.resolved outcome)).session.Sound := by
  have hstakes := s.stakes_react_resolved outcome
  refine ⟨?_, ?_, nodup_ids_react hs.distinct _, ?_⟩
  · cases outcome <;> simp [react, resolve, quiet, Status.ofOutcome]
  · intro _ p hp
    rw [hstakes] at hp
    obtain ⟨id, _, rfl⟩ := List.mem_map.mp hp
    rfl
  · intro h
    simp [react, resolve, quiet] at h

theorem Sound.reported {s : Session} (hs : s.Sound) {e : Event} (he : e.isAnswer = false) :
    (s.react e).session.Sound := by
  obtain ⟨hstatus, htransaction, hready⟩ := react_frame (s := s) he
  refine ⟨?_, ?_, nodup_ids_react hs.distinct e, ?_⟩
  · rw [hstatus, htransaction]
    exact hs.outstanding_iff
  · intro ht p hp
    rw [htransaction] at ht
    rcases stakes_react (s := s) he with hsub | ⟨id, _, happ⟩
    · exact hs.closed ht p (hsub.subset hp)
    · rw [happ] at hp
      rcases List.mem_append.mp hp with hp | hp
      · exact hs.closed ht p hp
      · rw [List.mem_singleton.mp hp]
  · intro ht
    rw [htransaction] at ht
    exact hready (hs.ready ht)

theorem Sound.handle {s : Session} (hs : s.Sound) (e : Event) : (s.handle e).session.Sound := by
  cases e with
  | resolved outcome => exact (hs.record _).answered outcome
  | _ => exact (hs.record _).reported rfl

theorem Sound.transaction_eq_none {s : Session} (hs : s.Sound) (ho : s.status ≠ .outstanding) :
    s.transaction = none := by
  cases h : s.transaction with
  | none => rfl
  | some t => exact absurd (hs.outstanding_iff.mpr (by simp [h])) ho

/-- What a pass works on: the heads have the parts that they had, and no request is open. -/
theorem Sound.aimed {s : Session} (hs : s.Sound) (ho : s.status ≠ .outstanding) :
    s.aimed.transaction = none ∧ s.aimed.outputs.stakes = s.outputs.stakes ∧
      ∀ p ∈ s.aimed.outputs.stakes, p.2 = Pending.none := by
  have ht := hs.transaction_eq_none ho
  have hstakes : s.aimed.outputs.stakes = s.outputs.stakes :=
    s.refreshed.stakes_desire.trans s.stakes_refreshed
  exact ⟨s.refreshed_frame.2.1.trans ht, hstakes, hstakes ▸ hs.closed ht⟩

/-- A session that is as sound as another: it has the same parts and remembers no request. -/
theorem Sound.of_closed {s t : Session} (hs : s.Sound) (hstatus : t.status ≠ .outstanding)
    (ht : t.transaction = none) (hids : t.outputs.ids = s.outputs.ids)
    (hclosed : ∀ p ∈ t.outputs.stakes, p.2 = Pending.none) : t.Sound where
  outstanding_iff := by simp [hstatus, ht]
  closed := fun _ => hclosed
  distinct := hids ▸ hs.distinct
  ready := by simp [ht]

theorem Sound.refreshed {s : Session} (hs : s.Sound) : s.refreshed.Sound := by
  obtain ⟨hstatus, ht, hready⟩ := s.refreshed_frame
  have hstakes := s.stakes_refreshed
  refine ⟨?_, ?_, ?_, ?_⟩
  · rw [hstatus, ht]
    exact hs.outstanding_iff
  · rw [ht, hstakes]
    exact hs.closed
  · rw [Outputs.ids_eq_of_stakes_eq hstakes]
    exact hs.distinct
  · rw [ht, hready]
    exact hs.ready

theorem Sound.layout {s : Session} (hs : s.Sound) (accepts : Acceptance) :
    (s.layout accepts).session.Sound := by
  have idle {t : Session} (ho : s.status ≠ .outstanding) (hstatus : t.status = .idle)
      (ht : t.transaction = s.aimed.transaction)
      (hstakes : t.outputs.stakes = s.aimed.outputs.stakes) : t.Sound := by
    obtain ⟨hnone, hsame, hclosed⟩ := hs.aimed ho
    exact hs.of_closed (by simp [hstatus]) (ht.trans hnone)
      (Outputs.ids_eq_of_stakes_eq (hstakes.trans hsame)) (hstakes ▸ hclosed)
  have hraw : s.refreshed.outputs.stakes = s.aimed.outputs.stakes :=
    s.refreshed.stakes_desire.symm
  cases s.layout_ending accepts with
  | waiting _ hp => exact hp ▸ hs.refreshed
  | standingBack hc hp => exact hp ▸ idle (by simp [hc]) rfl rfl hraw
  | resting ho _ _ hp => exact hp ▸ idle ho rfl rfl hraw
  | agreeing hd _ hp => exact hp ▸ idle hd.1 rfl rfl rfl
  | refused r e hd _ _ hp => exact hp ▸ idle hd.1 rfl rfl rfl
  | sending r hd _ _ hp =>
      obtain ⟨_, hsame, _⟩ := hs.aimed hd.1
      rw [hp]
      refine ⟨by simp, by simp, ?_, ?_⟩
      · rw [Request.ids_foldl_mark, Outputs.ids_eq_of_stakes_eq hsame]
        exact hs.distinct
      · intro _
        have hdue := hd.2.2
        rw [isDue, Bool.and_eq_true] at hdue
        exact hdue.1

theorem Sound.after {s : Session} (hs : s.Sound) (m : Move) : (s.after m).Sound := by
  cases m with
  | event e => exact hs.handle e
  | pass accepts => exact hs.layout accepts

theorem Reachable.sound {s : Session} (hs : s.Reachable) : s.Sound :=
  hs.invariant sound_start (fun _ e h => h.handle e) fun _ accepts h => h.layout accepts

/-- Once the compositor has declared its state consistent, the session stays ready. -/
theorem ready_run {s : Session} (hs : s.ready = true) (moves : List Move) :
    (s.run moves).ready = true := by
  refine run_preserves (P := fun s => s.ready = true) ?_ ?_ hs moves
  · intro s e hs
    rcases e.eq_resolved_or with ⟨outcome, rfl⟩ | he
    · exact hs
    · exact (react_frame (s := s.record e) he).2.2 hs
  · exact fun s accepts hs => (s.ready_layout accepts).trans hs

/-- While nobody answers, an open request stays open. -/
theorem status_run_of_no_answer {s : Session} (hs : s.status = .outstanding) {moves : List Move}
    (hm : ∀ outcome, Move.event (.resolved outcome) ∉ moves) :
    (s.run moves).status = .outstanding := by
  induction moves generalizing s with
  | nil => exact hs
  | cons m rest ih =>
      refine ih ?_ fun outcome h => hm outcome (List.mem_cons_of_mem m h)
      cases m with
      | event e =>
          have he : e.isAnswer = false := by
            cases e with
            | resolved outcome => exact absurd List.mem_cons_self (hm outcome)
            | _ => rfl
          exact (react_frame (s := s.record e) he).1.trans hs
      | pass accepts =>
          rw [after, (layout_of_outstanding hs accepts).1]
          exact s.refreshed_frame.1.trans hs

/-- It is the same request all the while. -/
theorem transaction_run_of_no_answer {s : Session} (hs : s.status = .outstanding)
    {moves : List Move}
    (hm : ∀ outcome, Move.event (.resolved outcome) ∉ moves) :
    (s.run moves).transaction = s.transaction := by
  induction moves generalizing s with
  | nil => rfl
  | cons m rest ih =>
      have hnext : (s.run [m]).status = .outstanding :=
        status_run_of_no_answer hs fun outcome h =>
          hm outcome (List.mem_singleton.mp h ▸ List.mem_cons_self)
      refine (ih hnext fun outcome h => hm outcome (List.mem_cons_of_mem m h)).trans ?_
      cases m with
      | event e =>
          have he : e.isAnswer = false :=
            e.eq_resolved_or.resolve_left fun ⟨outcome, he⟩ =>
              hm outcome (he ▸ List.mem_cons_self)
          exact (react_frame (s := s.record e) he).2.1
      | pass accepts =>
          have hsame := (layout_of_outstanding hs accepts).1
          exact (congrArg transaction hsame).trans s.refreshed_frame.2.1

/-- A pass that sends a request leaves it open. -/
theorem status_layout_of_sent {s : Session} {accepts : Acceptance}
    (hs : (s.layout accepts).sent.isSome = true) :
    (s.layout accepts).session.status = .outstanding := by
  cases s.layout_ending accepts with
  | sending _ _ _ _ hp => rw [hp]
  | _ => simp_all

/-- A pass without an error ends idle or with an open request. -/
theorem status_layout_of_ok {s : Session} {accepts : Acceptance}
    (he : (s.layout accepts).error = none) :
    (s.layout accepts).session.status = .idle ∨
      (s.layout accepts).session.status = .outstanding := by
  cases s.layout_ending accepts with
  | waiting ho hp =>
      rw [hp, s.refreshed_frame.1]
      exact Or.inr ho
  | standingBack _ hp => exact Or.inl (by rw [hp])
  | resting _ _ _ hp => exact Or.inl (by rw [hp])
  | agreeing _ _ hp => exact Or.inl (by rw [hp])
  | refused r e _ _ _ _ _ herr => simp [herr] at he
  | sending r _ _ _ hp => exact Or.inr (by rw [hp])

/-- A pass whose request the compositor does not take leaves the session idle. -/
theorem status_layout_of_error {s : Session} {accepts : Acceptance} {e : SessionError}
    (he : (s.layout accepts).error = some e) : (s.layout accepts).session.status = .idle := by
  cases s.layout_ending accepts with
  | refused r e _ _ _ hp => rw [hp]
  | _ => simp_all

/-- In every session to which a run leads, the status says that a request is open exactly when one
is remembered, and when none is remembered no property of any head is pending. A pass without an
error ends idle or with an open request, one with an error ends idle and without any trace of the
request, and between two requests that the compositor took there was an answer. -/
theorem one_request_at_a_time (config : Config) (file : ConfigFile) (recorded : Bool)
    (moves : List Move) :
    let s := (start config file recorded).run moves
    (s.status = .outstanding ↔ s.transaction.isSome = true) ∧
      (s.transaction = none → ∀ h ∈ s.outputs.heads, h.pending = Pending.none) ∧
      (∀ accepts, (s.layout accepts).error = none →
        (s.layout accepts).session.status = .idle ∨
          (s.layout accepts).session.status = .outstanding) ∧
      (∀ accepts e, (s.layout accepts).error = some e →
        (s.layout accepts).session.transaction = none ∧
          (∀ h ∈ (s.layout accepts).session.outputs.heads, h.pending = Pending.none) ∧
          (s.layout accepts).session.status = .idle) ∧
      ∀ first between second, (s.layout first).sent.isSome = true →
        (((s.layout first).session.run between).layout second).sent.isSome = true →
        ∃ outcome, Move.event (.resolved outcome) ∈ between := by
  intro s
  have hs : s.Sound := Reachable.sound ⟨config, file, recorded, moves, rfl⟩
  refine ⟨hs.outstanding_iff, fun ht _ hh => hs.pending_eq_none ht hh,
    fun _ he => status_layout_of_ok he, ?_, ?_⟩
  · intro accepts e he
    have hidle := status_layout_of_error he
    have hnext := hs.layout accepts
    have ht : (s.layout accepts).session.transaction = none := by
      cases h : (s.layout accepts).session.transaction with
      | none => rfl
      | some t =>
          have hopen := hnext.outstanding_iff.mpr (by simp [h])
          simp [hidle] at hopen
    exact ⟨ht, fun _ hh => hnext.pending_eq_none ht hh, hidle⟩
  · intro first between second hfirst hsecond
    by_contra hno
    push Not at hno
    have hopen := status_run_of_no_answer (status_layout_of_sent hfirst) hno
    simp [(layout_of_outstanding hopen second).2] at hsecond

end OutputArranger.Session
