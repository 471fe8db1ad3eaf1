import OutputArranger.Proofs.Layout.Recomputation
import OutputArranger.Proofs.Session.Step
import OutputArranger.Session.Pass

/-!
# What one pass can do

A pass looks at the lid, and computes what every head should become if anything has changed. It ends
in one of six ways, and only one of them opens a request.
-/

namespace OutputArranger

/-- Opening a request changes nothing in the heads but what is pending. -/
theorem Request.map_foldl_mark {α : Type} {g : Head → α}
    (hg : ∀ (h : Head) (p : Pending), g { h with pending := p } = g h)
    (entries : List HeadRequest) (o : Outputs) :
    (entries.foldl Request.mark o).heads.map g = o.heads.map g := by
  induction entries generalizing o with
  | nil => rfl
  | cons entry rest ih =>
      rw [List.foldl_cons, ih]
      exact map_updateFirst g (by intro h _; exact hg h _) o.heads

/-- Opening a request changes nothing but heads. -/
theorem Request.foldl_mark_eq (entries : List HeadRequest) (o : Outputs) :
    entries.foldl Request.mark o = { o with heads := (entries.foldl Request.mark o).heads } := by
  induction entries generalizing o with
  | nil => rfl
  | cons entry rest ih => exact ih (Request.mark o entry)

theorem Request.ids_foldl_mark (entries : List HeadRequest) (o : Outputs) :
    (entries.foldl Request.mark o).ids = o.ids :=
  Request.map_foldl_mark (by intro _ _; rfl) entries o

namespace Session

@[simp] theorem stakes_refreshed (s : Session) : s.refreshed.outputs.stakes = s.outputs.stakes := by
  unfold refreshed
  split <;> exact stakes_coverHeads _

@[simp] theorem stakes_desire (s : Session) : s.desire.outputs.stakes = s.outputs.stakes :=
  (Layout.ignoresDecision_stake.map_desire s.config _).trans s.outputs.stakes_resetDirty

theorem refreshed_frame (s : Session) :
    s.refreshed.status = s.status ∧ s.refreshed.transaction = s.transaction ∧
      s.refreshed.ready = s.ready := by
  unfold refreshed
  split <;> exact ⟨rfl, rfl, rfl⟩

/-- Before it decides about a request, a pass changes nothing in the heads but what they know of
the lid. -/
theorem refreshed_outputs (s : Session) :
    s.refreshed.outputs.heads = s.outputs.heads.map (coverHead s.config s.lidClosed) ∧
      s.refreshed.outputs.dirty = s.outputs.dirty ∧
      s.refreshed.outputs.serial = s.outputs.serial := by
  unfold refreshed
  split <;> exact ⟨rfl, rfl, rfl⟩

theorem refreshed_environment (s : Session) :
    s.refreshed.config = s.config ∧ s.refreshed.lidClosed = s.lidClosed := by
  unfold refreshed
  split <;> exact ⟨rfl, rfl⟩

/-- A pass reports the heads that came and went, and failures before that no longer count. -/
theorem refreshed_news (s : Session) :
    s.refreshed.hasNews = false ∧
      s.refreshed.outputs.retries = if s.hasNews then 0 else s.outputs.retries := by
  unfold refreshed
  cases hnews : s.hasNews with
  | true => exact ⟨rfl, rfl⟩
  | false => exact ⟨hnews, rfl⟩

theorem coverChanges_eq_false_iff {s : Session} :
    s.coverChanges = false ↔
      ∀ h ∈ s.outputs.heads, h.lidClosed = isCovered s.config s.lidClosed h := by
  simp only [coverChanges, List.any_eq_false, bne_iff_ne, ne_eq, not_not]

theorem map_coverHead {s : Session} (h : s.coverChanges = false) :
    s.outputs.heads.map (coverHead s.config s.lidClosed) = s.outputs.heads := by
  conv_rhs => rw [← List.map_id s.outputs.heads]
  apply List.map_congr_left
  intro a ha
  simp only [coverHead, coverChanges_eq_false_iff.mp h a ha, if_true, id]

theorem coverChanges_congr {s t : Session} (hc : t.config = s.config)
    (hl : t.lidClosed = s.lidClosed)
    (hh : (t.outputs.heads.map fun h => (h.lidClosed, h.name)) =
      s.outputs.heads.map fun h => (h.lidClosed, h.name)) :
    t.coverChanges = s.coverChanges := by
  have any (u : Session) : u.coverChanges =
      (u.outputs.heads.map fun h => (h.lidClosed, h.name)).any fun a =>
        a.1 != isCovered u.config u.lidClosed { Head.blank ⟨0⟩ with name := a.2 } := by
    rw [List.any_map]
    rfl
  rw [any, any, hc, hl, hh]

theorem coverChanges_refreshed (s : Session) : s.refreshed.coverChanges = false := by
  obtain ⟨hheads, _, _⟩ := s.refreshed_outputs
  obtain ⟨hconfig, hlid⟩ := s.refreshed_environment
  rw [coverChanges_eq_false_iff, hheads, hconfig, hlid]
  intro h hh
  obtain ⟨a, _, rfl⟩ := List.mem_map.mp hh
  unfold coverHead
  split
  · assumption
  · rfl

/-- A pass finds a session dirty when it was, or when the lid covers other heads than before. -/
theorem isDirty_refreshed_iff (s : Session) :
    s.refreshed.outputs.isDirty = true ↔ s.outputs.isDirty = true ∨ s.coverChanges = true := by
  obtain ⟨hheads, hdirty, _⟩ := s.refreshed_outputs
  rw [Outputs.isDirty_iff, Outputs.isDirty_iff, hheads, hdirty, coverChanges, List.any_eq_true]
  simp only [List.mem_map, exists_exists_and_eq_and, or_assoc, ← exists_or]
  refine or_congr Iff.rfl (exists_congr fun h => ?_)
  rw [← and_or_left]
  refine and_congr Iff.rfl ?_
  by_cases hc : h.lidClosed = isCovered s.config s.lidClosed h
  · simp [coverHead, hc]
  · simp [coverHead, hc]

/-- The session with what every head should become, as a pass computes it. -/
def aimed (s : Session) : Session := s.refreshed.desire

/-- What a pass computes leaves alone what the lid depends on. -/
theorem coverChanges_aimed (s : Session) : s.aimed.coverChanges = false := by
  rw [← s.coverChanges_refreshed]
  refine coverChanges_congr rfl rfl ?_
  have hview : Layout.IgnoresDecision fun h => (h.lidClosed, h.name) := fun _ _ _ _ => rfl
  have hdesire := hview.map_desire s.refreshed.config s.refreshed.outputs.resetDirty.heads
  refine hdesire.trans ?_
  simp only [Outputs.resetDirty, List.map_map]
  rfl

/-- What is computed is up to date. -/
theorem isDirty_desire (s : Session) : s.desire.outputs.isDirty = false := by
  have hview : Layout.IgnoresDecision Head.dirty := fun _ _ _ _ => rfl
  rw [← s.outputs.isDirty_resetDirty]
  exact Outputs.isDirty_congr rfl (hview.map_desire _ _)

theorem isDirty_aimed (s : Session) : s.aimed.outputs.isDirty = false :=
  s.refreshed.isDirty_desire

/-- Whether a pass computes what every head should become. -/
def computes (s : Session) : Prop :=
  s.status ≠ .outstanding ∧ s.status ≠ .cancelled ∧ s.refreshed.isDue = true

theorem computes_of_owed {s : Session} (ho : s.status ≠ .outstanding) (hc : s.status ≠ .cancelled)
    (hready : s.ready = true) (hdue : s.outputs.isDirty = true ∨ s.coverChanges = true) :
    s.computes := by
  refine ⟨ho, hc, ?_⟩
  rw [isDue, s.refreshed_frame.2.2, hready, Bool.true_and, isDirty_refreshed_iff]
  exact hdue

/-- The ways in which a pass can end. -/
inductive Ending (accepts : Acceptance) (s : Session) (p : Pass) : Prop
  /-- A request is open. -/
  | waiting : s.status = .outstanding → p.session = s.refreshed →
      p.sent = none → p.error = none → Ending accepts s p
  /-- The last request was cancelled, and the compositor is about to report its state. -/
  | standingBack : s.status = .cancelled → p.session = { s.refreshed with status := .idle } →
      p.sent = none → p.error = none → Ending accepts s p
  /-- Nothing has changed. -/
  | resting : s.status ≠ .outstanding → s.status ≠ .cancelled → s.refreshed.isDue = false →
      p.session = { s.refreshed with status := .idle, userChanges := false, awaiting := [] } →
      p.sent = none → p.error = none → Ending accepts s p
  /-- Every head is as it should be. -/
  | agreeing : s.computes →
      Request.plan s.aimed.outputs.heads s.aimed.outputs.serial = none →
      p.session = { s.aimed with status := .idle, userChanges := false, awaiting := [] } →
      p.sent = none → p.error = none → Ending accepts s p
  /-- The compositor does not take the request. -/
  | refused (r : Request) (e : SessionError) : s.computes →
      Request.plan s.aimed.outputs.heads s.aimed.outputs.serial = some r → accepts r = some e →
      p.session = { s.aimed with status := .idle } →
      p.sent = none → p.error = some e → Ending accepts s p
  /-- The compositor takes the request. -/
  | sending (r : Request) : s.computes →
      Request.plan s.aimed.outputs.heads s.aimed.outputs.serial = some r → accepts r = none →
      p.session =
        { s.aimed with
          outputs := r.heads.foldl Request.mark s.aimed.outputs
          transaction := some ⟨r.modeChange?⟩
          status := .outstanding
          userChanges := false } →
      p.sent = some r → p.error = none → Ending accepts s p

theorem arrange_ending {accepts : Acceptance} {s : Session} (ho : s.status ≠ .outstanding)
    (hc : s.status ≠ .cancelled) (log : List Notice) :
    Ending accepts s (({ s.refreshed with status := .idle }).arrange accepts log) := by
  unfold arrange
  split
  · rename_i hdue
    have computes : s.computes := ⟨ho, hc, hdue⟩
    dsimp only
    split
    · rename_i r hplan
      unfold send
      dsimp only
      split
      · rename_i e hr
        exact .refused r e computes hplan hr rfl rfl rfl
      · rename_i hr
        exact .sending r computes hplan hr rfl rfl rfl
    · rename_i hplan
      exact .agreeing computes hplan rfl rfl rfl
  · rename_i hdue
    exact .resting ho hc (Bool.eq_false_iff.mpr hdue) rfl rfl rfl

theorem layout_ending (accepts : Acceptance) (s : Session) :
    Ending accepts s (s.layout accepts) := by
  have hs : s.refreshed.status = s.status := s.refreshed_frame.1
  unfold layout
  cases h : s.status <;> simp only [hs, h]
  · exact arrange_ending (by simp [h]) (by simp [h]) _
  · exact .waiting h rfl rfl rfl
  · exact arrange_ending (by simp [h]) (by simp [h]) _
  · exact arrange_ending (by simp [h]) (by simp [h]) _
  · exact .standingBack h rfl rfl rfl

/-! ## What a pass notes about the heads -/

/-- A view of heads that does not show what a pass notes about them. -/
def IgnoresNotes {α : Type} (g : Head → α) : Prop :=
  ∀ (h : Head) (lid dirty : Bool) (pending : Pending) (desired : Desired) (fastest warned : Bool),
    g { h with
      lidClosed := lid
      dirty := dirty
      pending := pending
      desired := desired
      wantsFastest := fastest
      warnedNoMode := warned } = g h

namespace IgnoresNotes

variable {α : Type} {g : Head → α}

theorem map_refreshed (hg : IgnoresNotes g) (s : Session) :
    s.refreshed.outputs.heads.map g = s.outputs.heads.map g := by
  rw [s.refreshed_outputs.1, List.map_map]
  refine List.map_congr_left fun h _ => view_coverHead (fun h lid dirty => ?_) _ _ h
  exact hg h lid dirty h.pending h.desired h.wantsFastest h.warnedNoMode

theorem map_aimed (hg : IgnoresNotes g) (s : Session) :
    s.aimed.outputs.heads.map g = s.outputs.heads.map g := by
  have hview : Layout.IgnoresDecision g := fun h desired fastest warned =>
    hg h h.lidClosed h.dirty h.pending desired fastest warned
  rw [← hg.map_refreshed s]
  refine (hview.map_desire _ _).trans ?_
  rw [Outputs.resetDirty, List.map_map]
  exact List.map_congr_left fun h _ =>
    hg h h.lidClosed false h.pending h.desired h.wantsFastest h.warnedNoMode

theorem map_layout (hg : IgnoresNotes g) (s : Session) (accepts : Acceptance) :
    (s.layout accepts).session.outputs.heads.map g = s.outputs.heads.map g := by
  cases s.layout_ending accepts with
  | waiting _ hp => rw [hp]; exact hg.map_refreshed s
  | standingBack _ hp => rw [hp]; exact hg.map_refreshed s
  | resting _ _ _ hp => rw [hp]; exact hg.map_refreshed s
  | agreeing _ _ hp => rw [hp]; exact hg.map_aimed s
  | refused _ _ _ _ _ hp => rw [hp]; exact hg.map_aimed s
  | sending r _ _ _ hp =>
      have hpending (h : Head) (p : Pending) : g { h with pending := p } = g h :=
        hg h h.lidClosed h.dirty p h.desired h.wantsFastest h.warnedNoMode
      rw [hp]
      exact (Request.map_foldl_mark hpending r.heads _).trans (hg.map_aimed s)

end IgnoresNotes

theorem ids_layout (s : Session) (accepts : Acceptance) :
    (s.layout accepts).session.outputs.ids = s.outputs.ids :=
  IgnoresNotes.map_layout (g := Head.id) (fun _ _ _ _ _ _ _ => rfl) s accepts

/-- A pass that computes the layout leaves the heads as it has computed them, up to what is pending
from then on. -/
theorem map_layout_of_computes {α : Type} {g : Head → α}
    (hg : ∀ (h : Head) (p : Pending), g { h with pending := p } = g h) {s : Session}
    (hc : s.computes) (accepts : Acceptance) :
    (s.layout accepts).session.outputs.heads.map g = s.aimed.outputs.heads.map g := by
  cases s.layout_ending accepts with
  | waiting ho => exact absurd ho hc.1
  | standingBack hs => exact absurd hs hc.2.1
  | resting _ _ hdue => simp [hc.2.2] at hdue
  | agreeing _ _ hp => rw [hp]
  | refused _ _ _ _ _ hp => rw [hp]
  | sending r _ _ _ hp =>
      rw [hp]
      exact Request.map_foldl_mark hg r.heads _

/-- When every head knows whether the lid covers it, the layout is computed of the heads as they
are, except that none of them is marked any more. -/
theorem heads_aimed {s : Session} (hcover : s.coverChanges = false) :
    s.aimed.outputs.heads =
      Layout.desire s.config (s.outputs.heads.map fun h => { h with dirty := false }) := by
  have hheads : s.refreshed.outputs.heads = s.outputs.heads := by
    rw [s.refreshed_outputs.1, map_coverHead hcover]
  change Layout.desire s.refreshed.config s.refreshed.outputs.resetDirty.heads = _
  rw [Outputs.resetDirty, hheads, s.refreshed_environment.1]

/-! ## What a pass leaves alone -/

/-- Two sessions that agree in everything that is only for others to change. -/
structure SameFrame (s t : Session) : Prop where
  config : t.config = s.config
  lidClosed : t.lidClosed = s.lidClosed
  configFile : t.configFile = s.configFile
  ready : t.ready = s.ready
  serial : t.outputs.serial = s.outputs.serial

theorem sameFrame_refreshed (s : Session) : SameFrame s s.refreshed := by
  unfold refreshed
  split <;> exact ⟨rfl, rfl, rfl, rfl, rfl⟩

theorem sameFrame_layout (s : Session) (accepts : Acceptance) :
    SameFrame s (s.layout accepts).session := by
  have h := s.sameFrame_refreshed
  cases s.layout_ending accepts with
  | waiting _ hp => rw [hp]; exact h
  | standingBack _ hp => rw [hp]; exact ⟨h.config, h.lidClosed, h.configFile, h.ready, h.serial⟩
  | resting _ _ _ hp => rw [hp]; exact ⟨h.config, h.lidClosed, h.configFile, h.ready, h.serial⟩
  | agreeing _ _ hp => rw [hp]; exact ⟨h.config, h.lidClosed, h.configFile, h.ready, h.serial⟩
  | refused _ _ _ _ _ hp => rw [hp]; exact ⟨h.config, h.lidClosed, h.configFile, h.ready, h.serial⟩
  | sending r _ _ _ hp =>
      have hmarked := Request.foldl_mark_eq r.heads s.aimed.outputs
      rw [hp]
      exact ⟨h.config, h.lidClosed, h.configFile, h.ready,
        (congrArg Outputs.serial hmarked).trans h.serial⟩

theorem ready_layout (s : Session) (accepts : Acceptance) :
    (s.layout accepts).session.ready = s.ready :=
  (s.sameFrame_layout accepts).ready

theorem layout_environment (s : Session) (accepts : Acceptance) :
    (s.layout accepts).session.config = s.config ∧
      (s.layout accepts).session.lidClosed = s.lidClosed :=
  ⟨(s.sameFrame_layout accepts).config, (s.sameFrame_layout accepts).lidClosed⟩

/-- A pass that does not compute the layout does nothing but report and look at the lid. -/
theorem layout_of_not_computes {s : Session} (hc : ¬ s.computes) (accepts : Acceptance) :
    (s.layout accepts).session.outputs = s.refreshed.outputs ∧
      (s.layout accepts).session.transaction = s.transaction ∧
      (s.layout accepts).sent = none := by
  have ht := s.refreshed_frame.2.1
  cases s.layout_ending accepts with
  | waiting _ hp hsent => rw [hp]; exact ⟨rfl, ht, hsent⟩
  | standingBack _ hp hsent => rw [hp]; exact ⟨rfl, ht, hsent⟩
  | resting _ _ _ hp hsent => rw [hp]; exact ⟨rfl, ht, hsent⟩
  | agreeing h => exact absurd h hc
  | refused _ _ h => exact absurd h hc
  | sending _ h => exact absurd h hc

/-- Every pass reports what is to be reported and looks at the lid, whatever else it does. -/
theorem layout_news (s : Session) (accepts : Acceptance) :
    (s.layout accepts).session.hasNews = false ∧
      (s.layout accepts).session.coverChanges = false ∧
      (s.layout accepts).session.outputs.retries = if s.hasNews then 0 else s.outputs.retries := by
  obtain ⟨hnews, hretries⟩ := s.refreshed_news
  have hcover := s.coverChanges_refreshed
  have haimed := s.coverChanges_aimed
  cases s.layout_ending accepts with
  | waiting _ hp => rw [hp]; exact ⟨hnews, hcover, hretries⟩
  | standingBack _ hp => rw [hp]; exact ⟨hnews, hcover, hretries⟩
  | resting _ _ _ hp => rw [hp]; exact ⟨hnews, hcover, hretries⟩
  | agreeing _ _ hp => rw [hp]; exact ⟨hnews, haimed, hretries⟩
  | refused _ _ _ _ _ hp => rw [hp]; exact ⟨hnews, haimed, hretries⟩
  | sending r _ _ _ hp =>
      have hmarked := Request.foldl_mark_eq r.heads s.aimed.outputs
      rw [hp]
      refine ⟨?_, ?_, ?_⟩
      · rw [hasNews, hmarked]
        exact hnews
      · rw [← haimed]
        exact coverChanges_congr rfl rfl (Request.map_foldl_mark (by intro _ _; rfl) r.heads _)
      · rw [hmarked]
        exact hretries

/-- While a request is open, a pass does nothing but look at the lid. -/
theorem layout_of_outstanding {s : Session} (hs : s.status = .outstanding)
    (accepts : Acceptance) :
    (s.layout accepts).session = s.refreshed ∧ (s.layout accepts).sent = none := by
  cases s.layout_ending accepts with
  | waiting _ hp hsent => exact ⟨hp, hsent⟩
  | standingBack hc => simp [hs] at hc
  | resting ho => exact absurd hs ho
  | agreeing hc => exact absurd hs hc.1
  | refused _ _ hc => exact absurd hs hc.1
  | sending _ hc => exact absurd hs hc.1

/-- A pass that finds something to change sends the request if the compositor takes it. -/
theorem layout_of_plan_some {s : Session} (hc : s.computes) {r : Request}
    (hplan : Request.plan s.aimed.outputs.heads s.aimed.outputs.serial = some r)
    (accepts : Acceptance) (hr : accepts r = none) :
    (s.layout accepts).session =
        { s.aimed with
          outputs := r.heads.foldl Request.mark s.aimed.outputs
          transaction := some ⟨r.modeChange?⟩
          status := .outstanding
          userChanges := false } ∧
      (s.layout accepts).sent = some r := by
  cases s.layout_ending accepts with
  | waiting ho => exact absurd ho hc.1
  | standingBack hs => exact absurd hs hc.2.1
  | resting _ _ hdue => simp [hc.2.2] at hdue
  | agreeing _ hnone => simp [hplan] at hnone
  | refused q e _ hq herror =>
      obtain rfl : q = r := Option.some.inj (hq.symm.trans hplan)
      simp [hr] at herror
  | sending q _ hq _ hp hsent =>
      obtain rfl : q = r := Option.some.inj (hq.symm.trans hplan)
      exact ⟨hp, hsent⟩

end Session

end OutputArranger
