import OutputArranger.Proofs.Session.AtRest
import OutputArranger.Proofs.Session.OwedPass
import OutputArranger.Proofs.Session.Refusal

/-!
# Heads that come and go while a request is open

A head that arrives or leaves marks the outputs, and the layout is computed for it unless the mark
is wiped out before. Only giving up does that. The pass that reports the head lets failures before
it no longer count, so that giving up can come between only while the head is not reported yet: in
the time from its announcement to the next pass. What is then wiped out is not marked again, though
after that pass a new attempt would be allowed.
-/

namespace OutputArranger.Session

/-- Whether an event announces that a head has come or gone. -/
def announces (s : Session) : Event → Bool
  | .headArrived _ => true
  | .headFinished id => s.knows id
  | _ => false

/-- A pass that computes the layout. -/
def Computing (s : Session) : Move → Prop
  | .event _ => False
  | .pass _ => s.computes

theorem not_sometime_computing_events (s : Session) (events : List Event) :
    ¬ s.Sometime Computing (events.map .event) := by
  induction events generalizing s with
  | nil => exact id
  | cons e rest ih => exact fun h => h.elim id (ih (s.handle e).session)

/-! ## What events and passes leave of the announcement -/

/-- An event that is no answer wipes no mark of the outputs out, counts no failure, and leaves what
is to be reported. -/
theorem outputs_react {s : Session} {e : Event} (he : e.isAnswer = false) :
    (s.outputs.dirty = true → (s.react e).session.outputs.dirty = true) ∧
      (s.react e).session.outputs.retries ≤ s.outputs.retries ∧
      (s.hasNews = true → (s.react e).session.hasNews = true) := by
  have unchanged {t : Session} (h : t.outputs = s.outputs) :
      (s.outputs.dirty = true → t.outputs.dirty = true) ∧ t.outputs.retries ≤ s.outputs.retries ∧
        (s.hasNews = true → t.hasNews = true) := by
    rw [hasNews, hasNews, h]
    exact ⟨id, Nat.le_refl _, id⟩
  have outside {t : Session} (h : FromOutside s e t) :
      (s.outputs.dirty = true → t.outputs.dirty = true) ∧ t.outputs.retries ≤ s.outputs.retries ∧
        (s.hasNews = true → t.hasNews = true) := by
    cases h with
    | ignored ht => subst ht; exact unchanged rfl
    | adopting c clients ht => subst ht; exact ⟨fun _ => rfl, Nat.zero_le _, id⟩
    | writing client _ ht => subst ht; exact unchanged rfl
    | moving closed ht => subst ht; exact ⟨id, Nat.le_refl _, id⟩
    | covering closed ht => subst ht; exact ⟨id, Nat.zero_le _, id⟩
  cases e with
  | resolved outcome => simp [Event.isAnswer] at he
  | headArrived head =>
      simp only [react, quiet, hasNews, Outputs.addHead]
      split
      · exact ⟨fun _ => rfl, Nat.le_refl _, id⟩
      · exact ⟨fun _ => rfl, Nat.le_refl _, by simp⟩
  | headFinished head =>
      simp only [react, quiet, hasNews, Outputs.removeHead]
      split
      · exact ⟨id, Nat.le_refl _, id⟩
      · exact ⟨fun _ => rfl, Nat.le_refl _, by simp⟩
  | configChanged c => exact outside (s.fromOutside_configChanged c)
  | lidChanged closed => exact outside (s.fromOutside_lidChanged closed)
  | command r client => exact outside (s.fromOutside_command r client)
  | _ => exact ⟨id, Nat.le_refl _, id⟩

theorem dirty_of_announces {s : Session} {e : Event} (he : s.announces e = true) :
    (s.react e).session.outputs.dirty = true := by
  cases e with
  | headArrived id =>
      simp only [react, quiet, Outputs.addHead]
      split <;> rfl
  | headFinished id =>
      obtain ⟨h, hknown⟩ := Option.isSome_iff_exists.mp he
      simp only [react, quiet, Outputs.removeHead, hknown]
  | _ => simp [announces] at he

/-- An answer wipes the mark of the outputs out only if the changes are given up, and it leaves what
is to be reported. -/
theorem outputs_answered {s : Session} (hs : s.Sound) (outcome : Outcome) :
    (s.outputs.dirty = true → (s.react (.resolved outcome)).session.outputs.dirty = true ∨
        (s.react (.resolved outcome)).session.abandoned = true) ∧
      (s.hasNews = true → (s.react (.resolved outcome)).session.hasNews = true) := by
  by_cases hsuccess : outcome = .succeeded
  · subst hsuccess
    have hout := outputs_succeeded hs.distinct
    rw [succeeded] at hout
    rw [hasNews, hasNews, hout]
    exact ⟨Or.inl, id⟩
  · rw [hasNews, hasNews, abandoned_unsuccessful hs.distinct hsuccess,
      outputs_unsuccessful hs.distinct hsuccess]
    dsimp only
    split
    · exact ⟨fun _ => Or.inl rfl, id⟩
    · rename_i hspent
      exact ⟨fun _ => Or.inr (decide_eq_true (by omega)), id⟩

theorem dirty_layout {s : Session} (hc : ¬ s.computes) (accepts : Acceptance) :
    (s.layout accepts).session.outputs.dirty = s.outputs.dirty := by
  rw [(layout_of_not_computes hc accepts).1]
  exact s.refreshed_outputs.2.1

/-! ## Until the layout is computed -/

theorem dirty_after {s : Session} (hs : s.Sound) (hd : s.outputs.dirty = true) (m : Move) :
    (s.after m).outputs.dirty = true ∨ s.Computing m ∨ s.GivingUp m := by
  cases m with
  | pass accepts =>
      by_cases hc : s.computes
      · exact Or.inr (Or.inl hc)
      · exact Or.inl ((dirty_layout hc accepts).trans hd)
  | event e =>
      rcases e.eq_resolved_or with ⟨outcome, rfl⟩ | he
      · exact ((outputs_answered (hs.record _) outcome).1 hd).imp_right Or.inr
      · exact Or.inl ((outputs_react (s := s.record e) he).1 hd)

/-- The mark of the outputs stays until the layout is computed or the changes are given up. -/
theorem dirty_run {s : Session} (hs : s.Sound) (hd : s.outputs.dirty = true) (moves : List Move) :
    (s.run moves).outputs.dirty = true ∨ s.Sometime Computing moves ∨
      s.Sometime GivingUp moves := by
  induction moves generalizing s with
  | nil => exact Or.inl hd
  | cons m rest ih =>
      rcases dirty_after hs hd m with hnext | hcomputing | hgiving
      · exact (ih (hs.after m) hnext).imp_right (Or.imp Or.inr Or.inr)
      · exact Or.inr (Or.inl (Or.inl hcomputing))
      · exact Or.inr (Or.inr (Or.inl hgiving))

/-- A head that came or went is marked and has not been reported yet. -/
structure Announced (s : Session) : Prop where
  sound : s.Sound
  marked : s.outputs.dirty = true
  news : s.hasNews = true

/-- The layout has to be computed, and the failure of an open request is not a reason to give up. -/
structure Waiting (s : Session) : Prop where
  sound : s.Sound
  marked : s.outputs.dirty = true
  attempts : s.transaction.isSome = true → s.outputs.retries < maxRetries

theorem Announced.handle {s : Session} (hs : s.Announced) (e : Event) :
    (s.handle e).session.Announced ∨ s.GivingUp (.event e) := by
  rcases e.eq_resolved_or with ⟨outcome, rfl⟩ | he
  · obtain ⟨hdirty, hnews⟩ := outputs_answered (hs.sound.record (.resolved outcome)) outcome
    rcases hdirty hs.marked with hmarked | hgiving
    · exact Or.inl ⟨hs.sound.handle _, hmarked, hnews hs.news⟩
    · exact Or.inr hgiving
  · obtain ⟨hdirty, _, hnews⟩ := outputs_react (s := s.record e) he
    exact Or.inl ⟨hs.sound.handle e, hdirty hs.marked, hnews hs.news⟩

theorem Announced.run_events {s : Session} (hs : s.Announced) (events : List Event) :
    (s.run (events.map .event)).Announced ∨ s.Sometime GivingUp (events.map .event) := by
  induction events generalizing s with
  | nil => exact Or.inl hs
  | cons e rest ih =>
      rcases hs.handle e with hnext | hgiving
      · exact (ih hnext).imp_right Or.inr
      · exact Or.inr (Or.inl hgiving)

theorem Announced.layout {s : Session} (hs : s.Announced) (hc : ¬ s.computes)
    (accepts : Acceptance) : (s.layout accepts).session.Waiting := by
  obtain ⟨_, _, hretries⟩ := s.layout_news accepts
  rw [hs.news, if_pos rfl] at hretries
  refine ⟨hs.sound.layout accepts, (dirty_layout hc accepts).trans hs.marked, fun _ => ?_⟩
  rw [hretries]
  decide

theorem Waiting.after {s : Session} (hs : s.Waiting) {m : Move} (hm : s.Answering m) :
    (s.after m).Waiting ∨ s.Computing m := by
  cases m with
  | pass accepts =>
      by_cases hc : s.computes
      · exact Or.inr hc
      · have hdirty := (dirty_layout hc accepts).trans hs.marked
        refine Or.inl ⟨hs.sound.layout accepts, hdirty, fun hopen => ?_⟩
        have hattempts := hs.attempts ((layout_of_not_computes hc accepts).2.1 ▸ hopen)
        refine Nat.lt_of_le_of_lt (Nat.le_of_eq (s.layout_news accepts).2.2) ?_
        split
        · decide
        · exact hattempts
  | event e =>
      rcases e.eq_resolved_or with ⟨outcome, rfl⟩ | he
      · have hsound := hs.sound.handle (.resolved outcome)
        have hgoesOn : (s.handle (.resolved outcome)).session.abandoned = false :=
          abandoned_of_lt (hs.sound.record _).distinct (hs.attempts hm) outcome
        refine Or.inl ⟨hsound, ?_, fun hopen => ?_⟩
        · refine ((outputs_answered (hs.sound.record _) outcome).1 hs.marked).resolve_right ?_
          exact Bool.eq_false_iff.mp hgoesOn
        · have hclosed : (s.handle (.resolved outcome)).session.transaction = none := rfl
          exact absurd hopen (by simp [Session.after, hclosed])
      · obtain ⟨hdirty, hretries, _⟩ := outputs_react (s := s.record e) he
        have ht := (react_frame (s := s.record e) he).2.1
        refine Or.inl ⟨hs.sound.handle e, hdirty hs.marked, fun hopen => ?_⟩
        exact Nat.lt_of_le_of_lt hretries (hs.attempts (ht ▸ hopen))

/-- While answers come to open requests only, nothing is given up before the layout is computed: a
second request would come of computing it. -/
theorem Waiting.run {s : Session} (hs : s.Waiting) {moves : List Move}
    (hm : s.Throughout Answering moves) :
    (s.run moves).Waiting ∨ s.Sometime Computing moves := by
  induction moves generalizing s with
  | nil => exact Or.inl hs
  | cons m rest ih =>
      rcases hs.after hm.1 with hnext | hcomputing
      · exact (ih hnext hm.2).imp_right Or.inr
      · exact Or.inr (Or.inl hcomputing)

/-! ## Once the changes were given up -/

/-- In a session in which nothing is marked no pass computes the layout. -/
theorem not_sometime_computing_passes {s : Session} (hclean : s.outputs.isDirty = false)
    (hcover : s.coverChanges = false) (passes : List Acceptance) :
    ¬ s.Sometime Computing (passes.map .pass) := by
  induction passes generalizing s with
  | nil => exact id
  | cons accepts rest ih =>
      obtain ⟨hstill, hcovered⟩ := clean_layout hclean hcover accepts
      exact fun h => h.elim (not_computes_of_clean hclean hcover) (ih hstill hcovered)

/-- After the changes were given up, only what the lid covers differently can be a reason to compute
the layout again. -/
theorem exists_computing_iff {s : Session} (hs : s.Sound) (hd : s.outputs.isDirty = true)
    (ho : s.transaction.isSome = true) (outcome : Outcome) :
    let u := (s.handle (.resolved outcome)).session
    (∃ passes : List Acceptance, u.Sometime Computing (passes.map .pass)) ↔
      u.abandoned = false ∨ u.coverChanges = true := by
  intro u
  have hdirty : u.outputs.isDirty = true ↔ u.abandoned = false :=
    isDirty_resolved_iff (hs.record _) hd outcome
  constructor
  · rintro ⟨passes, hcomputing⟩
    by_contra hstill
    rw [← hdirty, not_or, Bool.not_eq_true, Bool.not_eq_true] at hstill
    exact not_sometime_computing_passes hstill.1 hstill.2 passes hcomputing
  · intro howed
    rw [← hdirty] at howed
    have hready : u.ready = true := hs.ready ho
    by_cases hcancelled : outcome = .cancelled
    · -- The first pass stands back, and the second one computes.
      subst hcancelled
      refine ⟨[.always, .always], Or.inr (Or.inl ?_)⟩
      have hmarked := u.isDirty_refreshed_iff.mpr howed
      have hstatus : u.status = .cancelled := rfl
      cases u.layout_ending .always with
      | standingBack _ hp =>
          rw [Session.after, hp]
          exact computes_of_owed (by simp) (by simp) (u.refreshed_frame.2.2.trans hready)
            (Or.inl hmarked)
      | waiting h => simp [hstatus] at h
      | resting _ h => exact absurd hstatus h
      | agreeing h => exact absurd hstatus h.2.1
      | refused _ _ h => exact absurd hstatus h.2.1
      | sending _ h => exact absurd hstatus h.2.1
    · have hstatus : u.status = .ofOutcome outcome := rfl
      refine ⟨[.always], Or.inl (computes_of_owed ?_ ?_ hready howed)⟩
      · cases outcome <;> simp [hstatus, Status.ofOutcome]
      · cases outcome <;> simp_all [Status.ofOutcome]

/-- What becomes of the announcement that a head has come or gone. If nothing is marked any more
some time later, the layout was computed or the changes were given up in between. If the head is
still to be reported, and answers come to open requests only, they were given up before the next
pass. And if the answer to an open request follows at once, passes compute the layout only if that
answer is no reason to give up, or the lid covers other heads than before. -/
theorem announcement_computed_or_given_up {s : Session} (hs : s.Reachable) {e : Event}
    (he : s.announces e = true) :
    let t := (s.handle e).session
    (∀ moves, (t.run moves).outputs.isDirty = false →
        t.Sometime Computing moves ∨ t.Sometime GivingUp moves) ∧
      (t.hasNews = true → ∀ (batch : List Event) (accepts : Acceptance) (later : List Move),
        t.Throughout Answering (batch.map .event ++ .pass accepts :: later) →
        (t.run (batch.map .event ++ .pass accepts :: later)).outputs.isDirty = false →
        t.Sometime Computing (batch.map .event ++ .pass accepts :: later) ∨
          t.Sometime GivingUp (batch.map .event)) ∧
      (t.transaction.isSome = true → ∀ outcome,
        let u := (t.handle (.resolved outcome)).session
        (∃ passes : List Acceptance, u.Sometime Computing (passes.map .pass)) ↔
          u.abandoned = false ∨ u.coverChanges = true) := by
  intro t
  have ht : t.Sound := hs.sound.handle e
  have hmarked : t.outputs.dirty = true := dirty_of_announces (s := s.record e) he
  have marked {u : Session} (hd : u.outputs.dirty = true) : u.outputs.isDirty = true :=
    (Outputs.isDirty_iff _).mpr (Or.inl hd)
  refine ⟨?_, ?_, ?_⟩
  · intro moves hclean
    refine (dirty_run ht hmarked moves).resolve_left fun hd => ?_
    simp [marked hd] at hclean
  · intro hnews batch accepts later hanswering hclean
    rcases Announced.run_events ⟨ht, hmarked, hnews⟩ batch with hbatch | hgiving
    · refine Or.inl (sometime_append.mpr (Or.inr ?_))
      by_cases hc : (t.run (batch.map .event)).computes
      · exact Or.inl hc
      · refine Or.inr ?_
        rcases (hbatch.layout hc accepts).run (throughout_append.mp hanswering).2.2 with
          hwaiting | hcomputing
        · rw [run_append, run_cons] at hclean
          have hdirty := marked hwaiting.marked
          rw [after, hdirty] at hclean
          simp at hclean
        · exact hcomputing
    · exact Or.inr hgiving
  · exact fun ho => exists_computing_iff ht (marked hmarked) ho

/-- A head is to be moved. Three requests for it have failed, and the fourth is open. -/
def lastAttempt : Session :=
  (start .default ⟨"cfg.toml", true, none⟩ false).run
    ([.event (.headArrived ⟨1⟩), .event (.modeArrived ⟨1⟩ ⟨10⟩),
        .event (.modeReported ⟨1⟩ ⟨10⟩ (.size 1920 1080)),
        .event (.headReported ⟨1⟩ (.enabled true)), .event (.headReported ⟨1⟩ (.currentMode ⟨10⟩)),
        .event (.headReported ⟨1⟩ (.position 100 0)), .event (.managerDone 1), .pass .always] ++
      (List.replicate 3 [.event (.resolved .failed), .pass .always]).flatten)

theorem lastAttempt_reachable : lastAttempt.Reachable := ⟨_, _, _, _, rfl⟩

/-- A second head that is off and could be on. -/
def secondHead : List Event :=
  [.modeArrived ⟨2⟩ ⟨20⟩, .modeReported ⟨2⟩ ⟨20⟩ (.size 1280 720),
    .headReported ⟨2⟩ (.enabled false), .managerDone 2]

/-- If the last attempt fails before a pass has reported the second head, no pass computes the
layout for it. -/
theorem announcement_computed_or_given_up_lastAttempt :
    lastAttempt.Reachable ∧ lastAttempt.announces (.headArrived ⟨2⟩) = true ∧
      ¬ ∃ passes : List Acceptance,
        ((lastAttempt.handle (.headArrived ⟨2⟩)).session.handle
          (.resolved .failed)).session.Sometime Computing (passes.map .pass) := by
  have he : lastAttempt.announces (.headArrived ⟨2⟩) = true := rfl
  obtain ⟨_, _, hfailed⟩ := announcement_computed_or_given_up lastAttempt_reachable he
  have hstill := (hfailed (by decide) .failed).not.mpr (by decide)
  exact ⟨lastAttempt_reachable, he, hstill⟩

/-- The second head arrives and is reported in full just before the last attempt fails. It is there,
no request is open and nothing is marked, but the layout was not computed for it and never will be
for as long as there are only passes. -/
theorem lastAttempt_forgotten :
    let moves := (secondHead ++ [Event.resolved .failed]).map Move.event
    let t := (lastAttempt.handle (.headArrived ⟨2⟩)).session
    lastAttempt.Reachable ∧ ((t.run moves).layout .always).error = none ∧
      (t.run (moves ++ [.pass .always])).ready = true ∧
      (t.run (moves ++ [.pass .always])).transaction = none ∧
      (t.run (moves ++ [.pass .always])).outputs.isDirty = false ∧
      (t.run (moves ++ [.pass .always])).knows ⟨2⟩ = true ∧
      ∀ passes : List Acceptance, ¬ t.Sometime Computing (moves ++ passes.map .pass) := by
  intro moves t
  refine ⟨lastAttempt_reachable, by decide, by decide, by decide, by decide, by decide, ?_⟩
  intro passes hcomputing
  rcases sometime_append.mp hcomputing with hevents | hpasses
  · exact not_sometime_computing_events t _ hevents
  · exact not_sometime_computing_passes (by decide) (by decide) passes hpasses

end OutputArranger.Session
