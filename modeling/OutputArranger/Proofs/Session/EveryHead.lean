import OutputArranger.Proofs.Session.HeadChanges

/-!
# What is true of every head

Much of what is true of the heads of a session is true of each head by itself. It holds in every
reachable session if it holds of a head that has just been announced, and if no report about a head,
no answer about its mode and no note that a pass makes about it puts an end to it.
-/

namespace OutputArranger.Session

open Transaction (failMode settled undone)

/-- A property of heads that nothing puts an end to that can happen to a head. -/
structure Lasting (P : Head → Prop) : Prop where
  blank : ∀ id, P (.blank id)
  reported : ∀ h r, P h → P (h.reported r)
  arriveMode : ∀ h m, P h → P (arriveMode m h)
  reportMode : ∀ h m r, P h → P (reportMode m r h)
  finishMode : ∀ h m, P h → P (finishMode m h)
  setMode : ∀ h m, P h → P { h with currentMode := some m }
  failMode : ∀ h m, P h → P (failMode m h)
  noted : ∀ h lid dirty pending desired fastest warned, P h → P { h with
    lidClosed := lid
    dirty := dirty
    pending := pending
    desired := desired
    wantsFastest := fastest
    warnedNoMode := warned }

namespace Lasting

variable {P : Head → Prop}

theorem coverHead (hP : Lasting P) (c : Config) (lid : Option Bool) {h : Head} (hh : P h) :
    P (coverHead c lid h) := by
  unfold Session.coverHead
  split
  · exact hh
  · exact hP.noted h _ _ _ _ _ _ hh

theorem ignoresNotes (hP : Lasting P) : IgnoresNotes P := by
  intro h lid dirty pending desired fastest warned
  refine propext ⟨fun hnoted => ?_, hP.noted h _ _ _ _ _ _⟩
  exact hP.noted { h with
      lidClosed := lid
      dirty := dirty
      pending := pending
      desired := desired
      wantsFastest := fastest
      warnedNoMode := warned }
    h.lidClosed h.dirty h.pending h.desired h.wantsFastest h.warnedNoMode hnoted

theorem closed (hP : Lasting P) {h : Head} (hh : P h) : P { h with pending := .none } :=
  hP.noted h h.lidClosed h.dirty .none h.desired h.wantsFastest h.warnedNoMode hh

theorem settled (hP : Lasting P) (modeChange : Option (HeadId × ModeId)) {h : Head} (hh : P h) :
    P (settled modeChange h) := by
  obtain _ | ⟨id, m⟩ := modeChange
  · exact hP.closed hh
  · unfold Transaction.settled
    dsimp only
    split
    · exact hP.closed (hP.setMode h m hh)
    · exact hP.closed hh

theorem undone (hP : Lasting P) (outcome : Outcome) (modeChange : Option (HeadId × ModeId))
    {h : Head} (hh : P h) : P (undone outcome modeChange h) := by
  unfold Transaction.undone
  split
  · split
    · exact hP.closed (hP.failMode h _ hh)
    · exact hP.closed hh
  · exact hP.closed hh

theorem acted (hP : Lasting P) {s : Session} {h : Head} (hh : P h) (e : Event) :
    P (s.acted e h) := by
  cases s.effect e h with
  | untouched hg => rwa [hg]
  | reported r _ hg => exact hg ▸ hP.reported h r hh
  | modeArrived m _ hg => exact hg ▸ hP.arriveMode h m hh
  | modeReported m r _ hg => exact hg ▸ hP.reportMode h m r hh
  | modeFinished m _ hg => exact hg ▸ hP.finishMode h m hh
  | covered closed _ hg => exact hg ▸ hP.coverHead _ _ hh
  | settled _ hg => exact hg ▸ hP.settled _ hh
  | undone outcome _ hg => exact hg ▸ hP.undone outcome _ hh
  | givenUp outcome _ hg => exact hg ▸ hP.noted _ _ _ _ _ _ _ (hP.undone outcome _ hh)

theorem react (hP : Lasting P) {s : Session} (hs : s.Sound) (hall : ∀ h ∈ s.outputs.heads, P h)
    (e : Event) : ∀ h ∈ (s.react e).session.outputs.heads, P h := by
  intro h hh
  rcases mem_react_cases hs.distinct hh with ⟨id, _, rfl⟩ | ⟨a, ha, rfl⟩
  · exact hP.blank id
  · exact hP.acted (hall a ha) e

theorem layout (hP : Lasting P) {s : Session} (hs : ∀ h ∈ s.outputs.heads, P h)
    (accepts : Acceptance) : ∀ h ∈ (s.layout accepts).session.outputs.heads, P h :=
  forall_mem_of_map_eq (hP.ignoresNotes.map_layout s accepts) hs

end Lasting

/-- What lasts is true of every head of every reachable session. -/
theorem Reachable.forall_heads {P : Head → Prop} (hP : Lasting P) {s : Session}
    (hs : s.Reachable) : ∀ h ∈ s.outputs.heads, P h := by
  have hboth : s.Sound ∧ ∀ h ∈ s.outputs.heads, P h := by
    refine hs.invariant (P := fun s => s.Sound ∧ ∀ h ∈ s.outputs.heads, P h) ?_ ?_ ?_
    · exact fun c f r => ⟨sound_start c f r, by simp [start, Outputs.empty]⟩
    · exact fun s e h => ⟨h.1.handle e, hP.react (h.1.record e) h.2 e⟩
    · exact fun s accepts h => ⟨h.1.layout accepts, hP.layout h.2 accepts⟩
  exact hboth.2

/-! ## Modes of a head -/

theorem ids_addMode (h : Head) (m : ModeId) :
    (h.addMode m).modes.map (·.id) = h.modes.map (·.id) ∨
      m ∉ h.modes.map (·.id) ∧ (h.addMode m).modes.map (·.id) = h.modes.map (·.id) ++ [m] := by
  unfold Head.addMode
  cases hknown : h.mode? m with
  | some mode => exact Or.inl rfl
  | none =>
      refine Or.inr ⟨?_, by simp [Mode.blank]⟩
      simpa [Head.mode?, List.find?_eq_none] using hknown

theorem ids_reportMode (m : ModeId) (r : ModeReport) (h : Head) :
    (reportMode m r h).modes.map (·.id) = h.modes.map (·.id) := by
  have kept (r : ModeReport) (a : Mode) : (reportedMode r a).id = a.id := by
    cases r <;> rfl
  cases r with
  | preferred =>
      simp only [reportMode, Head.setPreferred]
      split
      · simp only [List.map_map, Function.comp_def]
      · rfl
  | size width height => exact map_updateFirst Mode.id (fun a _ => kept _ a) h.modes
  | refresh rate => exact map_updateFirst Mode.id (fun a _ => kept _ a) h.modes

theorem lasting_nodup_modes : Lasting fun h => (h.modes.map (·.id)).Nodup where
  blank := fun _ => List.nodup_nil
  reported := by
    intro h r hh
    cases r <;> exact hh
  arriveMode := by
    intro h m hh
    change ((h.addMode m).modes.map (·.id)).Nodup
    rcases ids_addMode h m with hsame | ⟨hnew, happ⟩
    · rw [hsame]
      exact hh
    · rw [happ]
      exact List.nodup_append.mpr ⟨hh, List.nodup_singleton m, by
        intro a ha b hb hab
        exact hnew (List.mem_singleton.mp hb ▸ hab ▸ ha)⟩
  reportMode := by
    intro h m r hh
    rw [ids_reportMode]
    exact hh
  finishMode := by
    intro h m hh
    unfold Session.finishMode Head.removeMode
    split
    · exact hh.sublist (List.eraseP_sublist.map _)
    · exact hh
  setMode := fun _ _ hh => hh
  failMode := fun _ _ hh => hh
  noted := fun _ _ _ _ _ _ _ hh => hh

/-- No head lists a mode twice. -/
theorem Reachable.nodup_modes {s : Session} (hs : s.Reachable) {h : Head}
    (hh : h ∈ s.outputs.heads) : (h.modes.map (·.id)).Nodup :=
  hs.forall_heads lasting_nodup_modes h hh

end OutputArranger.Session
