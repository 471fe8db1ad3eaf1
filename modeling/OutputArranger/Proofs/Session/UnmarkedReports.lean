import OutputArranger.Proofs.Fulfilment
import OutputArranger.Proofs.Session.AtRest
import OutputArranger.Proofs.Session.HeadChanges
import OutputArranger.Proofs.Session.OwedPass

/-!
# Reports that mark nothing

While no request is open, whatever is reported about a head marks it as changed, and so does a mode
that comes or goes. The size of a mode, its rate and that it is preferred are only noted, though the
layout is computed from them. What such a report changes in the layout is made up for when something
is marked already, or is marked before the next pass. When it comes last, no pass looks at it.
-/

namespace OutputArranger

open Layout (isSole SameDecision targeted wanted)

/-- Whether an event is about a head or one of its modes. -/
def Event.isAboutHead : Event → Bool
  | .headArrived _ | .headReported _ _ | .headFinished _ => true
  | .modeArrived _ _ | .modeReported _ _ _ | .modeFinished _ _ => true
  | _ => false

def Event.isModeReport : Event → Bool
  | .modeReported _ _ _ => true
  | _ => false

/-- What a plan depends on in a head, apart from what was decided about it. -/
def Head.undecided (h : Head) : Head := Request.bare { h with desired := .blank }

namespace Session

variable {s : Session} {e : Event}

theorem bare_eq {g h : Head} (hreported : g.undecided = h.undecided)
    (hdesired : g.desired = h.desired) : Request.bare g = Request.bare h := by
  have split (a : Head) : Request.bare a = { a.undecided with desired := a.desired } := rfl
  rw [split, hreported, hdesired, ← split]

/-- The same is left to change after heads have changed in something that has no part in the
decisions. -/
theorem remaining_of_sameDecision {t : Session} {f : Head → Head} (hs : s.Sound)
    (ht : s.transaction = none) (hconfig : t.config = s.config)
    (hserial : t.outputs.serial = s.outputs.serial)
    (hheads : t.outputs.heads = s.outputs.heads.map f)
    (same : ∀ h ∈ s.outputs.heads, SameDecision s.config (isSole s.outputs.heads) (f h) h)
    (hreported : ∀ h ∈ s.outputs.heads, (f h).undecided = h.undecided) :
    t.remaining = s.remaining := by
  have hidle (h : Head) (hh : h ∈ s.outputs.heads) := hs.pending_eq_none ht hh
  have hids : (s.outputs.heads.map (·.id)).Nodup := hs.distinct
  have hkeys : ((s.outputs.heads.map f).map (·.id)).Nodup := by
    have hsame : (s.outputs.heads.map f).map (·.id) = s.outputs.heads.map (·.id) := by
      rw [List.map_map]
      exact List.map_congr_left fun h hh => (same h hh).id
    rw [hsame]
    exact hids
  have hview : Layout.IgnoresDecision Head.undecided := fun _ _ _ _ => rfl
  -- Head by head the same is planned, since the targets agree and so does what was reported.
  have htargets : ∀ h ∈ s.outputs.heads,
      Request.bare (targeted s.config (s.outputs.heads.map f) (f h)) =
        Request.bare (targeted s.config s.outputs.heads h) := by
    intro h hh
    have hrest := Layout.targeted_of_ignoresDecision hview s.config
    refine bare_eq ?_ (Layout.desired_targeted_of_sameDecision hidle same hh)
    rw [hrest, hrest, hreported h hh]
  rw [remaining, remaining, hconfig, hserial, hheads, Layout.desire_eq_map hids,
    Layout.desire_eq_map hkeys, ← Request.plan_map_bare,
    ← Request.plan_map_bare (s.outputs.heads.map _)]
  congr 1
  simp only [List.map_map]
  exact List.map_congr_left htargets

theorem undecided_reportMode (m : ModeId) (r : ModeReport) (h : Head) :
    (reportMode m r h).undecided = h.undecided ∧ (reportMode m r h).name = h.name ∧
      (reportMode m r h).description = h.description :=
  ⟨view_reportMode (fun _ _ _ => rfl) m r h, view_reportMode (fun _ _ _ => rfl) m r h,
    view_reportMode (fun _ _ _ => rfl) m r h⟩

/-- A report of a mode changes what is left to change only through what its head shall become. -/
theorem exists_wanted_ne (hs : s.Sound) (ht : s.transaction = none) {id : HeadId} {m : ModeId}
    {r : ModeReport} (hne : (s.react (.modeReported id m r)).session.remaining ≠ s.remaining) :
    ∃ h ∈ s.outputs.heads, h.id = id ∧
      wanted s.config (isSole s.outputs.heads) (reportMode m r h) ≠
        wanted s.config (isSole s.outputs.heads) h := by
  by_contra hall
  push Not at hall
  have hheads := heads_react (e := .modeReported id m r) hs.distinct (by simp) (by simp)
  refine hne (remaining_of_sameDecision hs ht rfl rfl hheads ?_ ?_)
  · intro h hh
    obtain ⟨_, hname, hdescription⟩ := undecided_reportMode m r h
    obtain ⟨hid, hpending⟩ := Prod.mk.inj (stake_reportMode m r h)
    simp only [acted]
    split
    · rename_i heq
      exact ⟨hid, hname, hdescription, hpending, hall h hh heq⟩
    · exact ⟨rfl, rfl, rfl, rfl, rfl⟩
  · intro h _
    simp only [acted]
    split
    · exact (undecided_reportMode m r h).1
    · rfl

/-- An update that marks the head that it changes marks the session, or changes nothing. -/
theorem isDirty_updateHead_or (hs : s.Sound) {id : HeadId} {f : Head → Head}
    (marks : ∀ h ∈ s.outputs.heads, (f h).dirty = true ∨ f h = h) :
    (s.updateHead id f).outputs.isDirty = true ∨
      (s.updateHead id f).outputs.heads = s.outputs.heads := by
  by_cases hmarked : ∃ h ∈ s.outputs.heads, h.id = id ∧ (f h).dirty = true
  · obtain ⟨h, hh, hid, hdirty⟩ := hmarked
    refine Or.inl ((Outputs.isDirty_updateHead_iff hs.distinct id f).mpr (Or.inr ⟨h, hh, ?_⟩))
    rw [if_pos hid]
    exact hdirty
  · push Not at hmarked
    refine Or.inr ((Outputs.heads_updateHead hs.distinct id f).trans ?_)
    conv_rhs => rw [← List.map_id s.outputs.heads]
    refine List.map_congr_left fun h hh => ?_
    split
    · rename_i hid
      exact (marks h hh).resolve_left (by simpa using hmarked h hh hid)
    · rfl

/-- Every event about a head, but for the reports of modes, marks the session or changes nothing. -/
theorem isDirty_react_or (hs : s.Sound) (ht : s.transaction = none) (he : e.isAboutHead = true)
    (hreport : e.isModeReport = false) :
    (s.react e).session.outputs.isDirty = true ∨
      (s.react e).session.outputs.heads = s.outputs.heads := by
  have hidle (h : Head) (hh : h ∈ s.outputs.heads) := hs.pending_eq_none ht hh
  have marked {o : Outputs} (h : o.dirty = true) : o.isDirty = true :=
    (Outputs.isDirty_iff o).mpr (Or.inl h)
  cases e with
  | headArrived id =>
      refine Or.inl (marked ?_)
      simp only [react, quiet, Outputs.addHead]
      split <;> rfl
  | headReported id r =>
      refine isDirty_updateHead_or hs fun h hh => Or.inl ?_
      have hunexpected := isExpected_of_pending_none (hidle h hh) (.headReported h.id r)
      rw [h.dirty_reported]
      simpa [Event.isExpected] using hunexpected
  | headFinished id =>
      simp only [react, quiet, Outputs.removeHead]
      split
      · exact Or.inr rfl
      · exact Or.inl (marked rfl)
  | modeArrived id m =>
      refine isDirty_updateHead_or hs fun h hh => Or.inl ?_
      simp only [arriveMode, hidle h hh, Pending.none, Bool.not_false]
  | modeReported id m r => simp [Event.isModeReport] at hreport
  | modeFinished id m =>
      refine isDirty_updateHead_or hs fun h _ => ?_
      unfold finishMode
      split
      · exact Or.inl rfl
      · exact Or.inr rfl
  | _ => simp [Event.isAboutHead] at he

/-- A report of a mode leaves all marks as they are. -/
theorem isDirty_reportMode (s : Session) (id : HeadId) (m : ModeId) (r : ModeReport) :
    (s.react (.modeReported id m r)).session.outputs.isDirty = s.outputs.isDirty :=
  Outputs.isDirty_congr rfl (map_updateFirst _ (fun h _ => dirty_reportMode m r h) s.outputs.heads)

theorem react_aboutHead (he : e.isAboutHead = true) :
    (s.react e).session.config = s.config ∧
      (s.react e).session.outputs.serial = s.outputs.serial := by
  cases e with
  | headArrived id =>
      refine ⟨rfl, ?_⟩
      simp only [react, quiet, Outputs.addHead]
      split <;> rfl
  | headFinished id =>
      refine ⟨rfl, ?_⟩
      simp only [react, quiet, Outputs.removeHead]
      split <;> rfl
  | headReported id r => exact ⟨rfl, rfl⟩
  | modeArrived id m => exact ⟨rfl, rfl⟩
  | modeReported id m r => exact ⟨rfl, rfl⟩
  | modeFinished id m => exact ⟨rfl, rfl⟩
  | _ => simp [Event.isAboutHead] at he

/-- When a change of what is left to do goes unnoticed. While no request is open, an event about a
head that changes what is left to do leaves the session dirty, except when it is a report of a mode,
nothing was marked, and the report changes what the head of the mode shall become. If the session is
not dirty then, no later pass sends what is left, unless something else happens. -/
theorem change_marked_iff (hs : s.Reachable) (ht : s.transaction = none)
    (he : e.isAboutHead = true) :
    let t := (s.handle e).session
    ((t.remaining ≠ s.remaining → t.outputs.isDirty = true) ↔
        (e.isModeReport = true → s.outputs.isDirty = false → t.remaining = s.remaining)) ∧
      (∀ id m r, e = .modeReported id m r → t.remaining ≠ s.remaining →
        ∃ h ∈ s.outputs.heads, h.id = id ∧
          wanted s.config (isSole s.outputs.heads) (reportMode m r h) ≠
            wanted s.config (isSole s.outputs.heads) h) ∧
      (t.outputs.isDirty = false → t.coverChanges = false →
        ∀ (passes : List Acceptance) (accepts : Acceptance),
          ((t.run (passes.map .pass)).layout accepts).sent = none ∧
            ((t.run (passes.map .pass)).layout accepts).session.remaining = t.remaining) := by
  intro t
  have hsound := hs.sound.record e
  have hclosed : (s.record e).transaction = none := ht
  refine ⟨?_, ?_, ?_⟩
  · cases hreport : e.isModeReport with
    | true =>
        obtain ⟨id, m, r, rfl⟩ : ∃ id m r, e = .modeReported id m r := by
          cases e with
          | modeReported id m r => exact ⟨id, m, r, rfl⟩
          | _ => simp [Event.isModeReport] at hreport
        have hdirty : t.outputs.isDirty = s.outputs.isDirty := isDirty_reportMode _ id m r
        rw [hdirty, ← Bool.not_eq_true, ← not_imp_not]
        simp
    | false =>
        refine iff_of_true ?_ (by simp)
        intro hne
        refine (isDirty_react_or hsound hclosed he hreport).resolve_right fun hheads => hne ?_
        obtain ⟨hconfig, hserial⟩ := react_aboutHead (s := s.record e) he
        exact remaining_congr hconfig hheads hserial
  · rintro id m r rfl hne
    exact exists_wanted_ne hsound hclosed hne
  · intro hclean hcover
    have hstatus : t.status ≠ .outstanding := by
      have hnext := hs.sound.handle e
      have hopen : t.transaction = none := by
        cases e with
        | resolved outcome => rfl
        | _ => exact (react_frame rfl).2.1.trans hclosed
      rw [ne_eq, hnext.outstanding_iff, hopen]
      simp
    exact sent_run_passes_eq_none hstatus hclean hcover

/-- A head is at rest in its only mode. Another mode has arrived, of which nothing is known yet, and
the layout has been computed since. -/
def sizeAwaited : Session :=
  (start .default ⟨"cfg.toml", true, none⟩ false).run
    [.event (.headArrived ⟨1⟩), .event (.modeArrived ⟨1⟩ ⟨10⟩),
      .event (.modeReported ⟨1⟩ ⟨10⟩ (.size 1280 720)), .event (.headReported ⟨1⟩ (.enabled true)),
      .event (.headReported ⟨1⟩ (.currentMode ⟨10⟩)), .event (.managerDone 1), .pass .always,
      .event (.modeArrived ⟨1⟩ ⟨11⟩), .pass .always]

theorem sizeAwaited_reachable : sizeAwaited.Reachable := ⟨_, _, _, _, rfl⟩

/-- The new mode turns out to be the larger one, and is not asked for. -/
theorem change_marked_iff_sizeAwaited :
    sizeAwaited.Reachable ∧ sizeAwaited.transaction = none ∧
      ∀ (passes : List Acceptance) (accepts : Acceptance),
        (((sizeAwaited.handle (.modeReported ⟨1⟩ ⟨11⟩ (.size 3840 2160))).session.run
          (passes.map .pass)).layout accepts).sent = none := by
  have ht : sizeAwaited.transaction = none := by decide
  have h := (change_marked_iff sizeAwaited_reachable ht
    (e := .modeReported ⟨1⟩ ⟨11⟩ (.size 3840 2160)) rfl).2.2 (by decide) (by decide)
  exact ⟨sizeAwaited_reachable, ht, fun passes accepts => (h passes accepts).1⟩

theorem sizeAwaited_unnoticed :
    let t := (sizeAwaited.handle (.modeReported ⟨1⟩ ⟨11⟩ (.size 3840 2160))).session
    sizeAwaited.Reachable ∧ sizeAwaited.transaction = none ∧ sizeAwaited.remaining = none ∧
      t.remaining = some ⟨1, [.mode ⟨1⟩ ⟨11⟩]⟩ ∧ t.outputs.isDirty = false :=
  ⟨sizeAwaited_reachable, by decide, by decide, by decide, by decide⟩

end Session

end OutputArranger
