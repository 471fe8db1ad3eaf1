import OutputArranger.Proofs.Session.OpenRequest

/-!
# When an owed pass is forgotten

A session that is dirty owes a computation of the layout. Nearly every event leaves the debt in
place: it marks the session or a head as changed, or does not touch the marks. The exceptions are
the reports that look like a consequence of the open request. Such a report overwrites the mark of
its head, and with it whatever else had happened to that head since the request was sent. The main
statement says exactly when the debt is lost, for events, passes and answers.
-/

namespace OutputArranger

/-- Whether a report looks like what the open request asked of a head. A panel whose lid is closed
is never expected to go off, nor one in the open to go on, unless the request says so. -/
def HeadReport.isExpected (h : Head) : HeadReport → Bool
  | .enabled on => h.pending.enabled && on != h.lidClosed
  | .position _ _ => h.pending.position
  | .scale _ => h.pending.scale
  | _ => false

/-- Whether an event is a report about a head that looks like what the open request asked of it. -/
def Event.isExpected (h : Head) : Event → Bool
  | .headReported id r => decide (h.id = id) && r.isExpected h
  | .modeArrived id _ => decide (h.id = id) && h.pending.mode
  | _ => false

theorem Head.dirty_reported (h : Head) (r : HeadReport) :
    (h.reported r).dirty = !r.isExpected h := by
  cases r with
  | enabled on => simp [reported, HeadReport.isExpected, Bool.not_and, bne]
  | _ => rfl

namespace Outputs

theorem isDirty_updateHead_iff {o : Outputs} (ho : o.ids.Nodup) (id : HeadId) (f : Head → Head) :
    (o.updateHead id f).isDirty = true ↔
      o.dirty = true ∨ ∃ a ∈ o.heads, (if a.id = id then f a else a).dirty = true := by
  rw [isDirty_iff, heads_updateHead ho]
  simp only [List.mem_map, exists_exists_and_eq_and]
  rfl

/-- An update that cleans the heads of which it is expected, and none besides, loses the debt
exactly when there is none but that of the head that it cleans. -/
theorem isDirty_updateHead_iff_not {o : Outputs} (ho : o.ids.Nodup) (hd : o.isDirty = true)
    (id : HeadId) {f : Head → Head} (expected : Head → Bool)
    (clean : ∀ h, expected h = true → (f h).dirty = false)
    (keep : ∀ h, expected h = false → h.dirty = true → (f h).dirty = true) :
    (o.updateHead id f).isDirty = true ↔
      ¬ (o.dirty = false ∧ ∃ h ∈ o.heads, (decide (h.id = id) && expected h) = true ∧
        ∀ a ∈ o.heads, a.dirty = true → a = h) := by
  have unique {a b : Head} (ha : a ∈ o.heads) (hb : b ∈ o.heads) (hab : a.id = b.id) : a = b :=
    List.inj_on_of_nodup_map ho ha hb hab
  rw [isDirty_updateHead_iff ho]
  constructor
  · rintro hdirty ⟨hclean, h, hh, hexp, honly⟩
    rw [Bool.and_eq_true, decide_eq_true_eq] at hexp
    rcases hdirty with hdirty | ⟨a, ha, hdirty⟩
    · simp [hclean] at hdirty
    · by_cases hid : a.id = id
      · rw [if_pos hid, unique ha hh (hid.trans hexp.1.symm), clean h hexp.2] at hdirty
        simp at hdirty
      · rw [if_neg hid] at hdirty
        exact hid (honly a ha hdirty ▸ hexp.1)
  · intro hnot
    -- Were the debt lost, it would lie with the one head that the update cleans.
    by_contra hclean
    push Not at hclean
    obtain ⟨hflag, hheads⟩ := hclean
    rcases (isDirty_iff o).mp hd with hdirty | ⟨h, hh, hdirty⟩
    · exact hflag hdirty
    · have hid {a : Head} (ha : a ∈ o.heads) (hdirty : a.dirty = true) : a.id = id := by
        by_contra hid
        exact hheads a ha (by rw [if_neg hid]; exact hdirty)
      refine hnot ⟨Bool.eq_false_iff.mpr hflag, h, hh, ?_, ?_⟩
      · have hgone := hheads h hh
        rw [if_pos (hid hh hdirty)] at hgone
        rw [Bool.and_eq_true, decide_eq_true_eq]
        refine ⟨hid hh hdirty, ?_⟩
        by_contra hexp
        exact hgone (keep h (Bool.eq_false_iff.mpr hexp) hdirty)
      · intro a ha hadirty
        exact unique ha hh ((hid ha hadirty).trans (hid hh hdirty).symm)

/-- An update that cleans no head keeps the debt. -/
theorem isDirty_updateHead {o : Outputs} (ho : o.ids.Nodup) (hd : o.isDirty = true)
    (id : HeadId) {f : Head → Head} (keep : ∀ h, h.dirty = true → (f h).dirty = true) :
    (o.updateHead id f).isDirty = true := by
  refine (isDirty_updateHead_iff_not ho hd id (fun _ => false) ?_ fun h _ => keep h).mpr ?_
  · simp
  · simp

end Outputs

namespace Session

/-- The debt that a session forgets when it handles an event: it lies with one head alone, and the
event looks like what the open request asked of that head. -/
def forgets (s : Session) (e : Event) : Prop :=
  s.outputs.dirty = false ∧
    ∃ h ∈ s.outputs.heads, e.isExpected h = true ∧ ∀ a ∈ s.outputs.heads, a.dirty = true → a = h

theorem dirty_reportMode (m : ModeId) (r : ModeReport) (h : Head) :
    (reportMode m r h).dirty = h.dirty :=
  view_reportMode (fun _ _ _ => rfl) m r h

theorem dirty_finishMode (m : ModeId) (h : Head) (hd : h.dirty = true) :
    (finishMode m h).dirty = true := by
  unfold finishMode
  split
  · rfl
  · exact hd

theorem dirty_coverHead (c : Config) (lid : Option Bool) (h : Head) (hd : h.dirty = true) :
    (coverHead c lid h).dirty = true := by
  unfold coverHead
  split
  · exact hd
  · rfl

theorem isDirty_coverHeads {s : Session} (hd : s.outputs.isDirty = true) :
    s.coverHeads.outputs.isDirty = true := by
  rw [Outputs.isDirty_iff] at hd ⊢
  rcases hd with hd | ⟨h, hh, hd⟩
  · exact Or.inl hd
  · exact Or.inr ⟨_, List.mem_map_of_mem hh, dirty_coverHead _ _ h hd⟩

theorem not_forgets {s : Session} {e : Event} (he : ∀ h, e.isExpected h = false) :
    ¬ s.forgets e := by
  rintro ⟨_, h, _, hexp, _⟩
  simp [he h] at hexp

/-- An event that is no answer leaves the debt in place unless it is forgotten. -/
theorem isDirty_react_iff {s : Session} (hs : s.Sound) (hd : s.outputs.isDirty = true)
    {e : Event} (he : e.isAnswer = false) :
    (s.react e).session.outputs.isDirty = true ↔ ¬ s.forgets e := by
  have keeps (h : (s.react e).session.outputs.isDirty = true)
      (he : ∀ h, e.isExpected h = false) :
      (s.react e).session.outputs.isDirty = true ↔ ¬ s.forgets e :=
    ⟨fun _ => not_forgets he, fun _ => h⟩
  have marked {o : Outputs} (h : o.dirty = true) : o.isDirty = true :=
    (Outputs.isDirty_iff o).mpr (Or.inl h)
  have outside {t : Session} (h : FromOutside s e t) : t.outputs.isDirty = true := by
    cases h with
    | ignored ht => subst ht; exact hd
    | adopting c clients ht => subst ht; exact marked rfl
    | writing client _ ht => subst ht; exact hd
    | moving closed ht => subst ht; exact isDirty_coverHeads (s := { s with lidClosed := _ }) hd
    | covering closed ht => subst ht; exact isDirty_coverHeads (s := { s with lidClosed := _ }) hd
  cases e with
  | resolved outcome => simp [Event.isAnswer] at he
  | headArrived id =>
      refine keeps (marked ?_) fun _ => rfl
      simp only [react, quiet, Outputs.addHead]
      split <;> rfl
  | headReported id r =>
      refine Outputs.isDirty_updateHead_iff_not hs.distinct hd id r.isExpected ?_ ?_
      · intro h hexp
        rw [h.dirty_reported, hexp]
        rfl
      · intro h hexp _
        rw [h.dirty_reported, hexp]
        rfl
  | headFinished id =>
      refine keeps ?_ fun _ => rfl
      simp only [react, quiet, Outputs.removeHead]
      split
      · exact hd
      · exact marked rfl
  | modeArrived id m =>
      refine Outputs.isDirty_updateHead_iff_not hs.distinct hd id (·.pending.mode) ?_ ?_
      · intro h hexp
        simp [arriveMode, hexp]
      · intro h hexp _
        simp [arriveMode, hexp]
  | modeReported id m r =>
      refine keeps (Outputs.isDirty_updateHead hs.distinct hd id ?_) fun _ => rfl
      intro h hdirty
      exact (dirty_reportMode m r h).trans hdirty
  | modeFinished id m =>
      exact keeps (Outputs.isDirty_updateHead hs.distinct hd id (dirty_finishMode m)) fun _ => rfl
  | managerDone serial => exact keeps hd fun _ => rfl
  | managerFinished => exact keeps hd fun _ => rfl
  | configChanged c => exact keeps (outside (s.fromOutside_configChanged c)) fun _ => rfl
  | lidChanged closed => exact keeps (outside (s.fromOutside_lidChanged closed)) fun _ => rfl
  | command r client => exact keeps (outside (s.fromOutside_command r client)) fun _ => rfl

/-- An answer leaves the debt in place unless the changes are given up. -/
theorem isDirty_resolved_iff {s : Session} (hs : s.Sound) (hd : s.outputs.isDirty = true)
    (outcome : Outcome) :
    (s.react (.resolved outcome)).session.outputs.isDirty = true ↔
      (s.react (.resolved outcome)).session.abandoned = false := by
  have retried (o : Outputs) :
      (if o.countRetry.mayRetry then ({ o.countRetry with dirty := true }, true)
        else (o.countRetry.resetDirty, false)).1.isDirty = true ↔
      (!(if o.countRetry.mayRetry then ({ o.countRetry with dirty := true }, true)
        else (o.countRetry.resetDirty, false)).2) = false := by
    split
    · simp [Outputs.isDirty]
    · simp
  cases outcome with
  | failed => exact retried _
  | cancelled => exact retried _
  | succeeded =>
      exact ⟨fun _ => s.abandoned_succeeded, fun _ => (isDirty_succeeded hs.distinct).trans hd⟩

theorem dirty_foldl_mark (entries : List HeadRequest) (o : Outputs) :
    (entries.foldl Request.mark o).isDirty = o.isDirty := by
  have hflag : (entries.foldl Request.mark o).dirty = o.dirty := by
    induction entries generalizing o with
    | nil => rfl
    | cons entry rest ih => exact ih (Request.mark o entry)
  exact Outputs.isDirty_congr hflag (Request.map_foldl_mark (by intro _ _; rfl) entries o)

/-- A pass leaves the debt in place unless it computes the layout. -/
theorem isDirty_layout_iff {s : Session} (hd : s.outputs.isDirty = true) (accepts : Acceptance) :
    (s.layout accepts).session.outputs.isDirty = true ↔ ¬ s.computes := by
  have hkept := s.isDirty_refreshed_iff.mpr (Or.inl hd)
  have hgone := s.isDirty_aimed
  cases s.layout_ending accepts with
  | waiting ho hp =>
      rw [hp]
      exact ⟨fun _ hc => hc.1 ho, fun _ => hkept⟩
  | standingBack hs hp =>
      rw [hp]
      exact ⟨fun _ hc => hc.2.1 hs, fun _ => hkept⟩
  | resting _ _ hdue hp =>
      rw [hp]
      exact ⟨fun _ hc => by simp [hc.2.2] at hdue, fun _ => hkept⟩
  | agreeing hc _ hp =>
      rw [hp]
      exact ⟨fun h => absurd h (by simp [hgone]), fun h => absurd hc h⟩
  | refused _ _ hc _ _ hp =>
      rw [hp]
      exact ⟨fun h => absurd h (by simp [hgone]), fun h => absurd hc h⟩
  | sending r hc _ _ hp =>
      rw [hp]
      exact ⟨fun h => absurd h (by simp [dirty_foldl_mark, hgone]), fun h => absurd hc h⟩

theorem isExpected_of_pending_none {h : Head} (hp : h.pending = Pending.none) (e : Event) :
    e.isExpected h = false := by
  cases e with
  | headReported id r =>
      cases r <;> simp [Event.isExpected, HeadReport.isExpected, hp, Pending.none]
  | modeArrived id m => simp [Event.isExpected, hp, Pending.none]
  | _ => rfl

/-- When a debt is lost. Among the events that are no answers, only those lose it that look like
what the open request asked of the one head with which the debt lies, and there must be such a
request. A pass pays the debt exactly when it computes the layout, and an answer drops it exactly
when the changes are given up. -/
theorem isDirty_step_iff {s : Session} (hs : s.Reachable) (hd : s.outputs.isDirty = true) :
    (∀ e, e.isAnswer = false →
      ((s.handle e).session.outputs.isDirty = true ↔ ¬ s.forgets e)) ∧
      (∀ e, s.forgets e → s.transaction.isSome = true) ∧
      (∀ accepts, (s.layout accepts).session.outputs.isDirty = true ↔ ¬ s.computes) ∧
      ∀ outcome, (s.handle (.resolved outcome)).session.outputs.isDirty = true ↔
        (s.handle (.resolved outcome)).session.abandoned = false := by
  refine ⟨?_, ?_, isDirty_layout_iff hd, ?_⟩
  · intro e he
    exact isDirty_react_iff (hs.sound.record e) hd he
  · rintro e ⟨_, h, hh, hexp, _⟩
    by_contra hclosed
    rw [Bool.not_eq_true, Option.isSome_eq_false_iff, Option.isNone_iff_eq_none] at hclosed
    have hp := hs.sound.pending_eq_none hclosed hh
    simp [isExpected_of_pending_none hp e] at hexp
  · intro outcome
    exact isDirty_resolved_iff (hs.sound.record (.resolved outcome)) hd outcome

/-- While a head is on its way to the origin, it reports its physical size. -/
def resizedInFlight : Session :=
  (start .default ⟨"cfg.toml", true, none⟩ false).run
    [.event (.headArrived ⟨1⟩), .event (.modeArrived ⟨1⟩ ⟨10⟩),
      .event (.modeReported ⟨1⟩ ⟨10⟩ (.size 3840 2160)),
      .event (.headReported ⟨1⟩ (.enabled true)), .event (.headReported ⟨1⟩ (.currentMode ⟨10⟩)),
      .event (.headReported ⟨1⟩ (.position 100 0)), .event (.managerDone 1), .pass .always,
      .event (.headReported ⟨1⟩ (.physicalSize 600 340))]

theorem resizedInFlight_reachable : resizedInFlight.Reachable := ⟨_, _, _, _, rfl⟩

theorem isDirty_step_iff_resizedInFlight :
    resizedInFlight.Reachable ∧ resizedInFlight.outputs.isDirty = true ∧
      resizedInFlight.forgets (.headReported ⟨1⟩ (.position 0 0)) ∧
      ¬ resizedInFlight.forgets (.headReported ⟨1⟩ (.enabled true)) := by
  have hd : resizedInFlight.outputs.isDirty = true := by decide
  have h := (isDirty_step_iff resizedInFlight_reachable hd).1
  refine ⟨resizedInFlight_reachable, hd, ?_, ?_⟩
  · by_contra hkept
    exact absurd ((h (.headReported ⟨1⟩ (.position 0 0)) rfl).mpr hkept) (by decide)
  · exact (h (.headReported ⟨1⟩ (.enabled true)) rfl).mp (by decide)

/-- The report of the new position wipes out the mark that the physical size has left. -/
theorem resizedInFlight_forgotten :
    resizedInFlight.Reachable ∧ resizedInFlight.outputs.isDirty = true ∧
      Event.isAnswer (.headReported ⟨1⟩ (.position 0 0)) = false ∧
      (resizedInFlight.handle (.headReported ⟨1⟩ (.position 0 0))).session.outputs.isDirty =
        false :=
  ⟨resizedInFlight_reachable, by decide, rfl, by decide⟩

end Session

end OutputArranger
