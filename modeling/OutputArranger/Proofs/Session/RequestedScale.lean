import OutputArranger.Proofs.Layout.WantedScale
import OutputArranger.Proofs.RequestShape

/-!
# Which scales are requested

A request that switches a head on or arranges it carries the scale that was chosen for the head. As
long as no mode has a negative size, this scale is positive, unless the user gives one for the head
that is less than half of a 256th or no number. A configuration with such a scale has no issues.
-/

namespace OutputArranger.Session

open Binary64 (stepsPerOne)

/-- The scale that is requested for a head is chosen for one of the modes that it has. -/
theorem exists_scale_of_sent {s : Session} (hs : s.Sound) {accepts : Acceptance} {r : Request}
    (hsent : (s.layout accepts).sent = some r) {id : HeadId} {scale : Scale} {x y : Int}
    {t : Transform} (hr : HeadRequest.enable id scale x y t ∈ r.heads) :
    ∃ h ∈ s.outputs.heads, h.id = id ∧
      ∃ m, scale = Layout.wantedScale s.config h (h.mode? m) := by
  obtain ⟨hc, hplan⟩ := plan_of_sent hsent
  have haimed := hs.aimed_heads hc.1
  have hnamed : id ∈ s.aimed.outputs.heads.map (·.id) :=
    (Request.sublist_of_plan hplan).2.subset (List.mem_map_of_mem (f := HeadRequest.head) hr)
  obtain ⟨a, ha, rfl⟩ := List.mem_map.mp hnamed
  rcases Request.shape_of_plan haimed hplan with ⟨b, mode, hmode⟩ | hbundle
  · rw [hmode.alone, List.mem_singleton] at hr
    contradiction
  · obtain ⟨hon, _, hscale, _⟩ := hbundle.enable a ha scale x y t hr
    obtain ⟨m, hchosen⟩ := haimed.exists_scale ha hon
    -- What the choice depends on is what the pass has found.
    have hview : IgnoresNotes fun h => (h.id, fun m => Layout.wantedScale s.config h (h.mode? m)) :=
      fun _ _ _ _ _ _ _ => rfl
    have hviews := List.mem_map_of_mem
      (f := fun h => (h.id, fun m => Layout.wantedScale s.config h (h.mode? m))) ha
    rw [hview.map_aimed s] at hviews
    obtain ⟨h, hh, hsame⟩ := List.mem_map.mp hviews
    obtain ⟨hid, hchoice⟩ := Prod.mk.inj hsame
    exact ⟨h, hh, hid, m, hscale.trans (hchosen.trans (congrFun hchoice m).symm)⟩

/-- When the scale that is requested for a head is positive, if no mode has a negative size: exactly
if the user gives none for the head, or one that is a number and at least half of a 256th. With a
configuration without issues it is never negative, but it may be zero. -/
theorem enable_scale_pos_iff {s : Session} (hs : s.Reachable)
    (hsizes : ∀ h ∈ s.outputs.heads, ∀ m ∈ h.modes, 0 ≤ m.width ∧ 0 ≤ m.height)
    {accepts : Acceptance} {r : Request} (hsent : (s.layout accepts).sent = some r) {id : HeadId}
    {scale : Scale} {x y : Int} {t : Transform}
    (hr : HeadRequest.enable id scale x y t ∈ r.heads) :
    ∃ h ∈ s.outputs.heads, h.id = id ∧
      (0 < scale.raw ↔
        ∀ entry, s.config.scales.find? (h.isSelectedBy ·.pattern) = some entry →
          entry.scale.isNaN = false ∧ (stepsPerOne : Int) ≤ 512 * entry.scale.steps) ∧
      (s.config.issues = [] → 0 ≤ scale.raw) := by
  obtain ⟨h, hh, hid, m, rfl⟩ := exists_scale_of_sent hs.sound hsent hr
  have hm : ∀ mode ∈ h.mode? m, 0 ≤ mode.width ∧ 0 ≤ mode.height :=
    fun mode hmode => hsizes h hh mode (List.mem_of_find?_eq_some hmode)
  exact ⟨h, hh, hid, Layout.wantedScale_pos_iff hm, fun hc => Layout.wantedScale_nonneg hc hm⟩

/-- A head for which the user gives a scale, which is taken over. -/
def namedScale (x : Binary64) : Session :=
  (start .default ⟨"cfg.toml", true, none⟩ false).run
    [.event (.headArrived ⟨1⟩), .event (.headReported ⟨1⟩ (.name "DP-1")),
      .event (.modeArrived ⟨1⟩ ⟨10⟩), .event (.modeReported ⟨1⟩ ⟨10⟩ (.size 1920 1080)),
      .event (.headReported ⟨1⟩ (.enabled true)), .event (.headReported ⟨1⟩ (.currentMode ⟨10⟩)),
      .event (.headReported ⟨1⟩ (.position 0 0)), .event (.headReported ⟨1⟩ (.scale ⟨512⟩)),
      .event (.managerDone 1), .event (.command (.apply (.setScale ⟨"DP-1", x⟩)) none)]

theorem namedScale_reachable (x : Binary64) : (namedScale x).Reachable := ⟨_, _, _, _, rfl⟩

/-- Half of a 256th, the least that leaves something. -/
def halfStep : Binary64 := ⟨false, ⟨1014, by decide⟩, ⟨0, by decide⟩⟩

/-- A thousandth. -/
def thousandth : Binary64 := ⟨false, ⟨1013, by decide⟩, ⟨108086391056892, by decide⟩⟩

theorem enable_scale_pos_iff_halfStep :
    ((namedScale halfStep).layout .always).sent = some ⟨1, [.enable ⟨1⟩ ⟨1⟩ 0 0 .normal]⟩ ∧
      ∃ h ∈ (namedScale halfStep).outputs.heads, h.id = ⟨1⟩ ∧
        ∀ entry, (namedScale halfStep).config.scales.find? (h.isSelectedBy ·.pattern) = some entry →
          entry.scale.isNaN = false ∧ (stepsPerOne : Int) ≤ 512 * entry.scale.steps := by
  have hsizes : ∀ h ∈ (namedScale halfStep).outputs.heads, ∀ m ∈ h.modes,
      0 ≤ m.width ∧ 0 ≤ m.height := by decide +kernel
  have hsent : ((namedScale halfStep).layout .always).sent =
      some ⟨1, [.enable ⟨1⟩ ⟨1⟩ 0 0 .normal]⟩ := by decide +kernel
  obtain ⟨h, hh, hid, hpos, _⟩ := enable_scale_pos_iff (namedScale_reachable halfStep) hsizes hsent
    (List.mem_singleton_self _)
  exact ⟨hsent, h, hh, hid, hpos.mp (by decide)⟩

/-- Less than that becomes nothing, though the configuration has no issues. -/
theorem thousandth_asks_for_zero :
    (namedScale thousandth).Reachable ∧ (namedScale thousandth).config.issues = [] ∧
      (∀ h ∈ (namedScale thousandth).outputs.heads, ∀ m ∈ h.modes,
        0 ≤ m.width ∧ 0 ≤ m.height) ∧
      ((namedScale thousandth).layout .always).sent =
        some ⟨1, [.enable ⟨1⟩ ⟨0⟩ 0 0 .normal]⟩ :=
  ⟨namedScale_reachable thousandth, by decide +kernel, by decide +kernel, by decide +kernel⟩

end OutputArranger.Session
