import OutputArranger.Proofs.Layout.ModeChoice

/-!
# What is decided about a head

Whether a head shall be on is up to the user, the lid and its modes, and all else that it shall
become follows from the first entries of the configuration that select it. A head that shall not be
on keeps what was reported of it.
-/

namespace OutputArranger.Layout

variable {c : Config} {sole : Bool} {heads : List Head} {h g : Head}

/-- What the configuration, the lid and the modes of a head ask for, and how the head stands after a
pass. -/
structure Decided (c : Config) (heads : List Head) (h g : Head) : Prop where
  on_iff : g.desired.enabled = true ↔
    (∀ pattern ∈ c.disabled, h.isSelectedBy pattern = false) ∧
      (h.lidClosed = false ∨ heads.length = 1) ∧ ∃ m ∈ h.modes, m.id ∉ h.failedModes
  fastest_iff : g.wantsFastest = true ↔ ∃ pattern ∈ c.fastest, h.isSelectedBy pattern = true
  on : g.desired.enabled = true → ∃ m,
    Mode.optimal g.wantsFastest (h.modes.filter fun m => m.id ∉ h.failedModes) = some m ∧
      g.desired.mode = some m.id ∧
      (∀ entry, c.scales.find? (h.isSelectedBy ·.pattern) = some entry →
        g.desired.scale = .ofFloat entry.scale) ∧
      (c.scales.find? (h.isSelectedBy ·.pattern) = none →
        g.desired.scale = if c.autoScale then autoScale h.widthMm h.heightMm (some m) else .one) ∧
      (∀ entry, c.transforms.find? (h.isSelectedBy ·.pattern) = some entry →
        g.desired.transform = entry.transform) ∧
      (c.transforms.find? (h.isSelectedBy ·.pattern) = none → g.desired.transform = .normal) ∧
      (g.desired.width, g.desired.height) = dimensions m g.desired.transform g.desired.scale
  off : g.desired.enabled = false →
    g.desired.mode = h.currentMode ∧ g.desired.scale = h.scale ∧
      g.desired.transform = h.transform ∧ g.desired.x = h.x ∧ g.desired.y = h.y ∧
      g.isChanging = h.enabled

theorem mayBeOn_iff : mayBeOn c sole h = true ↔
    (∀ pattern ∈ c.disabled, h.isSelectedBy pattern = false) ∧
      (h.lidClosed = false ∨ sole = true) := by
  simp [mayBeOn, selectedByAny, and_comm]

theorem usableModes_ne_nil_iff : h.usableModes ≠ [] ↔ ∃ m ∈ h.modes, m.id ∉ h.failedModes := by
  simp [Head.usableModes, List.filter_eq_nil_iff]

theorem enabled_wanted_iff : (wanted c sole h).enabled = true ↔
    mayBeOn c sole h = true ∧ h.usableModes ≠ [] := by
  constructor
  · intro hon
    obtain ⟨m, hm, _⟩ := exists_mode_of_wanted hon
    exact ⟨mayBeOn_of_wanted hon, List.ne_nil_of_mem hm⟩
  · rintro ⟨hmay, hmodes⟩
    rw [enabled_wanted c sole hmodes, hmay]

/-- A head that shall be on shall show the best of its modes. -/
theorem exists_best_of_wanted (hmodes : (h.modes.map (·.id)).Nodup)
    (hon : (wanted c sole h).enabled = true) :
    ∃ m, bestMode c h = some m ∧
      wanted c sole h =
        ⟨some m.id, wantedScale c h (some m), true, wantedTransform c h, h.x, h.y,
          (dimensions m (wantedTransform c h) (wantedScale c h (some m))).1,
          (dimensions m (wantedTransform c h) (wantedScale c h (some m))).2⟩ := by
  have hmay := mayBeOn_of_wanted hon
  cases hbest : bestMode c h with
  | none => simp [wanted, hmay, hbest] at hon
  | some m =>
      have hmem : m ∈ h.modes := (List.mem_filter.mp (Mode.mem_of_optimal hbest)).1
      have hfind : h.mode? m.id = some m := find?_eq_some_of_mem hmodes hmem
      refine ⟨m, rfl, ?_⟩
      simp [wanted, hmay, hbest, hfind]

theorem wantsFastest_targeted (hp : h.pending = Pending.none) (c : Config) (heads : List Head) :
    (targeted c heads h).wantsFastest = selectedByAny c.fastest h := by
  have hidle := desireHead_of_idle hp c (isSole heads)
  unfold targeted
  split
  · unfold move
    split <;> rw [hidle]
  · rw [hidle]

/-- A head that shall not be on changes only by being switched off. -/
theorem isChanging_of_kept (c : Config) (heads : List Head)
    (hkept : (targeted c heads h).desired = kept h) :
    (targeted c heads h).isChanging = h.enabled := by
  have hreported := targeted_of_ignoresDecision
    (g := fun h => (h.currentMode, h.enabled, h.scale, h.transform, h.x, h.y))
    (fun _ _ _ _ => rfl) c heads h
  simp only [Prod.mk.injEq] at hreported
  obtain ⟨hmode, henabled, hscale, htransform, hx, hy⟩ := hreported
  rw [Head.isChanging, Head.isModeChanging, hkept, hmode, henabled, hscale, htransform, hx, hy]
  cases h.enabled <;> simp [kept]

/-- What a pass decides about a head that is not part of an open request. -/
theorem decided_targeted (distinct : (heads.map (·.id)).Nodup) (hh : h ∈ heads)
    (hp : h.pending = Pending.none) (hmodes : (h.modes.map (·.id)).Nodup) :
    Decided c heads h (targeted c heads h) := by
  have hfastest := wantsFastest_targeted hp c heads
  have hview := view_targeted
    (g := fun d => (d.enabled, d.mode, d.scale, d.transform, d.width, d.height))
    (fun _ _ _ => rfl) hp c heads
  simp only [Prod.mk.injEq] at hview
  obtain ⟨henabled, hmode, hscale, htransform, hwidth, hheight⟩ := hview
  constructor
  · rw [henabled, enabled_wanted_iff, mayBeOn_iff, usableModes_ne_nil_iff, and_assoc, isSole,
      beq_iff_eq]
  · rw [hfastest, selectedByAny, List.any_eq_true]
  · intro hon
    obtain ⟨m, hbest, hwanted⟩ := exists_best_of_wanted hmodes (henabled ▸ hon)
    rw [hwanted] at hmode hscale htransform hwidth hheight
    refine ⟨m, hfastest ▸ hbest, hmode, ?_, ?_, ?_, ?_, ?_⟩
    · intro entry hentry
      rw [hscale, wantedScale, hentry]
    · intro hnone
      rw [hscale, wantedScale, hnone]
    · intro entry hentry
      rw [htransform, wantedTransform, hentry]
    · intro hnone
      rw [htransform, wantedTransform, hnone]
    · rw [hwidth, hheight, htransform, hscale]
  · intro hoff
    have hkept := desired_targeted_of_off distinct hh hp (henabled ▸ hoff)
    have hchanging := isChanging_of_kept c heads hkept
    rw [hkept]
    exact ⟨rfl, rfl, rfl, rfl, rfl, hchanging⟩

end OutputArranger.Layout
