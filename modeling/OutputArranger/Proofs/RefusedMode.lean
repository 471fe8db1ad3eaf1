import Mathlib.Data.List.Find
import OutputArranger.Proofs.RequestShape
import OutputArranger.Proofs.Session.Refusal

/-!
# When a mode is refused

A mode that the compositor has refused is not usable any more, and nothing else changes for the
head. As long as it has another usable mode it shall still be on, in one that it is not in, so it is
still the first head that needs a mode if it was before.
-/

namespace OutputArranger

open Layout (Aimed IgnoresDecision mayBeOn targeted wanted isSole)
open Transaction (failMode undone)

theorem Head.usableModes_failMode (m : ModeId) (h : Head) :
    (failMode m h).usableModes = h.usableModes.filter fun mode => decide (mode.id ≠ m) := by
  simp only [usableModes, failMode, List.filter_filter, mem_insertNew, not_or, Bool.decide_and]

/-- Each refusal leaves one usable mode less. -/
theorem Head.length_usableModes_failMode {h : Head} (hids : (h.modes.map (·.id)).Nodup) {m : Mode}
    (hm : m ∈ h.usableModes) : (failMode m.id h).usableModes.length + 1 = h.usableModes.length := by
  have husable : (h.usableModes.map (·.id)).Nodup := hids.sublist (List.filter_sublist.map _)
  have herase : (failMode m.id h).usableModes = h.usableModes.erase m := by
    rw [usableModes_failMode, husable.of_map.erase_eq_filter]
    refine List.filter_congr fun mode hmode => ?_
    rw [bne_eq, Bool.eq_iff_iff]
    simp only [decide_eq_true_eq, Bool.not_eq_true', beq_eq_false_iff_ne, ne_eq]
    refine not_congr ⟨fun hid => ?_, fun h => h ▸ rfl⟩
    exact List.inj_on_of_nodup_map husable hmode hm hid
  have hpos := List.length_pos_of_mem hm
  rw [herase, List.length_erase_of_mem hm]
  omega

namespace Request

variable {c : Config} {heads : List Head} {h : Head}

theorem needsMode_targeted (hp : h.pending = Pending.none) (c : Config) (heads : List Head) :
    needsMode (targeted c heads h) =
      ((wanted c (isSole heads) h).enabled && ((wanted c (isSole heads) h).mode.isSome &&
        (wanted c (isSole heads) h).mode != h.currentMode)) := by
  have henabled := Layout.view_targeted (g := Desired.enabled) (fun _ _ _ => rfl) hp c heads
  have hmode := Layout.view_targeted (g := Desired.mode) (fun _ _ _ => rfl) hp c heads
  have hview : IgnoresDecision Head.currentMode := fun _ _ _ _ => rfl
  rw [needsMode, Head.isModeChanging, henabled, hmode,
    Layout.targeted_of_ignoresDecision hview]

/-- A head that needs a mode and is refused one needs another one, if there is one. -/
theorem needsMode_refused (ha : Aimed c heads) {a : Head} (hmem : a ∈ heads)
    (hneeds : needsMode a = true) {m : ModeId} (hleft : (failMode m a).usableModes ≠ [])
    {others : List Head} (hsole : isSole others = isSole heads) :
    needsMode (targeted c others (failMode m a)) = true := by
  have hp : (failMode m a).pending = Pending.none := ha.idle a hmem
  have hself := needsMode_targeted (ha.idle a hmem) c heads
  rw [ha.targeted hmem, hneeds, eq_comm, Bool.and_eq_true] at hself
  have hmay : mayBeOn c (isSole heads) a = true := Layout.mayBeOn_of_wanted hself.1
  have hon : (wanted c (isSole heads) (failMode m a)).enabled = true :=
    (Layout.enabled_wanted c (isSole heads) hleft).trans hmay
  obtain ⟨mode, _, hmode⟩ := Layout.exists_mode_of_wanted hon
  rw [needsMode_targeted hp, hsole, hon, hmode]
  simp [failMode]

/-- When the mode is refused of the first head that needs one, it is still the first one, if it has
another usable mode. -/
theorem find?_needsMode_refused (ha : Aimed c heads) {a : Head}
    (hfirst : heads.find? needsMode = some a) {m : ModeId}
    (hleft : (failMode m a).usableModes ≠ []) :
    ∃ b, (Layout.desire c (heads.map (undone .failed (some (a.id, m))))).find? needsMode = some b ∧
      b.id = a.id ∧ b.usableModes = (failMode m a).usableModes := by
  have hmem : a ∈ heads := List.mem_of_find?_eq_some hfirst
  have hneeds : needsMode a = true := List.find?_some hfirst
  have hown : undone .failed (some (a.id, m)) a = failMode m a := by
    simp [undone, failMode, ← ha.idle a hmem]
  have hother {h : Head} (hh : h ∈ heads) (hid : h.id ≠ a.id) :
      undone .failed (some (a.id, m)) h = h := by
    simp only [undone, hid, if_false, ← ha.idle h hh]
  have hid := Transaction.view_undone (g := Head.id) (fun _ _ _ _ => rfl) .failed (some (a.id, m))
  have hids : ((heads.map (undone .failed (some (a.id, m)))).map (·.id)).Nodup := by
    rw [List.map_map]
    simpa only [Function.comp_def, hid] using ha.distinct
  have hsole := Layout.isSole_map (undone .failed (some (a.id, m))) heads
  rw [Layout.desire_eq_map hids, List.map_map, List.find?_map]
  -- Who needs a mode is the same as before, head by head.
  have hsame : heads.find? (needsMode ∘ targeted c (heads.map (undone .failed (some (a.id, m)))) ∘
      undone .failed (some (a.id, m))) = heads.find? needsMode := by
    refine List.find?_congr fun h hh => ?_
    simp only [Function.comp_apply]
    by_cases heq : h.id = a.id
    · obtain rfl := List.inj_on_of_nodup_map ha.distinct hh hmem heq
      rw [hown, hneeds]
      exact needsMode_refused ha hh hneeds hleft hsole
    · have hself := needsMode_targeted (ha.idle h hh) c heads
      rw [ha.targeted hh] at hself
      rw [hother hh heq, needsMode_targeted (ha.idle h hh), hsole, hself]
  have hview : IgnoresDecision Head.usableModes := fun _ _ _ _ => rfl
  have hviewId : IgnoresDecision Head.id := fun _ _ _ _ => rfl
  rw [hsame, hfirst]
  refine ⟨_, rfl, ?_, ?_⟩
  · rw [Function.comp_apply, Layout.targeted_of_ignoresDecision hviewId, hid]
  · rw [Function.comp_apply, Layout.targeted_of_ignoresDecision hview, hown]

end Request

end OutputArranger
