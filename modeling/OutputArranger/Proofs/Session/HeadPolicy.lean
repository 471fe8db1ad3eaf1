import OutputArranger.Proofs.Layout.Decision
import OutputArranger.Proofs.Session.HeadChanges

/-!
# Policy and warnings

A pass decides about every head that is not part of an open request by the rules of the
configuration, by the lid and by the modes that are left. A head that would have to be on but has no
usable mode is switched off, and a warning says so, once for as long as the head is there.
-/

namespace OutputArranger

/-- Whether the head leaves by the move. -/
def Move.removes (id : HeadId) : Move → Bool
  | .event (.headFinished gone) => gone = id
  | _ => false

namespace Layout

variable {c : Config} {heads : List Head} {h : Head}

/-- The heads about which a computation of the layout warns. -/
def complained (c : Config) (heads : List Head) : List Head :=
  heads.filter fun h => lacksMode c (isSole heads) h && !h.warnedNoMode

theorem desireNotices_eq (c : Config) (heads : List Head) :
    desireNotices c heads = (complained c heads).flatMap Head.reportNoMode := by
  unfold desireNotices complained
  generalize isSole heads = sole
  induction heads with
  | nil => rfl
  | cons h rest ih =>
      rw [List.flatMap_cons, ih, List.filter_cons]
      split
      · rw [List.flatMap_cons]
      · rw [List.nil_append]

theorem caution_desireHead (c : Config) (sole : Bool) (h : Head) :
    (desireHead c sole h).caution = (h.id, h.warnedNoMode || lacksMode c sole h) := by
  unfold desireHead
  split
  · rename_i hp
    simp [lacksMode, hp, Head.caution]
  · rfl

theorem caution_desire (c : Config) (heads : List Head) :
    (desire c heads).map Head.caution =
      heads.map fun h => (h.id, h.warnedNoMode || lacksMode c (isSole heads) h) := by
  have hmove (p : Placement) (h : Head) : (move p h).caution = h.caution := by
    unfold move
    split <;> rfl
  rw [desire_eq, map_foldl_updateFirst Head.caution fun p h _ => hmove p h, decided, List.map_map]
  exact List.map_congr_left fun h _ => caution_desireHead c _ h

end Layout

namespace Session

open Layout (Decided complained isSole lacksMode)

variable {s : Session} {h : Head} {id : HeadId} {m : Move}

instance (s : Session) : Decidable s.computes :=
  inferInstanceAs
    (Decidable (s.status ≠ .outstanding ∧ s.status ≠ .cancelled ∧ s.refreshed.isDue = true))

/-- The heads about which a pass warns for want of a usable mode. -/
def warned (s : Session) : List Head :=
  if s.computes then complained s.config s.refreshed.outputs.resetDirty.heads else []

theorem mem_warned : h ∈ s.warned ↔ s.computes ∧ h ∈ s.refreshed.outputs.resetDirty.heads ∧
    lacksMode s.config (isSole s.refreshed.outputs.resetDirty.heads) h = true ∧
      h.warnedNoMode = false := by
  unfold warned complained
  split <;> simp [*]

/-- The heads about which the passes of a run warn, the earliest first. -/
def warnings (s : Session) : List Move → List HeadId
  | [] => []
  | .event e :: rest => (s.handle e).session.warnings rest
  | .pass accepts :: rest => s.warned.map (·.id) ++ (s.layout accepts).session.warnings rest

/-! ## What a pass says -/

theorem severity_changeNotices (s : Session) (r : Request) :
    ∀ n ∈ s.changeNotices r, n.severity = .info := by
  intro n hn
  obtain ⟨entry, _, hentry⟩ := List.mem_filterMap.mp hn
  obtain ⟨h, _, rfl⟩ := Option.map_eq_some_iff.mp hentry
  rfl

theorem log_arrange (ho : s.status ≠ .outstanding) (hc : s.status ≠ .cancelled)
    (accepts : Acceptance) (log : List Notice) :
    ∃ rest, (({ s.refreshed with status := .idle }).arrange accepts log).log =
        log ++ s.warned.flatMap Head.reportNoMode ++ rest ∧ ∀ n ∈ rest, n.severity = .info := by
  unfold arrange
  split
  · rename_i hdue
    have hwarned : s.warned =
        complained s.refreshed.config s.refreshed.outputs.resetDirty.heads := by
      rw [warned, if_pos ⟨ho, hc, hdue⟩, s.refreshed_environment.1]
    dsimp only
    rw [Layout.desireNotices_eq, ← hwarned]
    split
    · rename_i r _
      refine ⟨_, ?_, severity_changeNotices s.aimed r⟩
      unfold send
      dsimp only
      split <;> rfl
    · split
      · exact ⟨[.info "No changes needed"], rfl, by simp [Notice.info]⟩
      · exact ⟨[], (List.append_nil _).symm, by simp⟩
  · rename_i hdue
    have hnone : s.warned = [] := if_neg fun hcomputes => hdue hcomputes.2.2
    exact ⟨[], by simp [hnone, settle], by simp⟩

/-- What a pass says: who came and went, how the last request ended, about which heads it warns, and
then what it is about to change. -/
theorem log_layout (s : Session) (accepts : Acceptance) :
    ∃ rest, (s.layout accepts).log =
        s.newsNotices ++ statusNotices s.status ++ s.warned.flatMap Head.reportNoMode ++ rest ∧
      ∀ n ∈ rest, n.severity = .info := by
  have hstatus := s.refreshed_frame.1
  have silent (hnot : ¬ s.computes) (log : List Notice) :
      ∃ rest, log = log ++ s.warned.flatMap Head.reportNoMode ++ rest ∧
        ∀ n ∈ rest, n.severity = .info :=
    ⟨[], by simp [warned, hnot], by simp⟩
  unfold layout
  cases h : s.status <;> simp only [hstatus, h]
  · exact log_arrange (by simp [h]) (by simp [h]) accepts _
  · exact silent (fun hc => hc.1 h) _
  · exact log_arrange (by simp [h]) (by simp [h]) accepts _
  · exact log_arrange (by simp [h]) (by simp [h]) accepts _
  · exact silent (fun hc => hc.2.1 h) _

/-! ## Once for every head -/

/-- The warning about a head that is there has been given. -/
def Warned (s : Session) (id : HeadId) : Prop := (id, true) ∈ s.outputs.heads.map Head.caution

theorem cautions_refreshed (s : Session) :
    s.refreshed.outputs.resetDirty.heads.map Head.caution = s.outputs.heads.map Head.caution := by
  rw [Outputs.resetDirty, s.refreshed_outputs.1, List.map_map, List.map_map]
  exact List.map_congr_left fun h _ => view_coverHead (fun _ _ _ => rfl) s.config s.lidClosed h

theorem cautions_layout (hc : s.computes) (accepts : Acceptance) :
    (s.layout accepts).session.outputs.heads.map Head.caution =
      s.refreshed.outputs.resetDirty.heads.map fun h =>
        (h.id, h.warnedNoMode ||
          lacksMode s.config (isSole s.refreshed.outputs.resetDirty.heads) h) := by
  rw [map_layout_of_computes (fun _ _ => rfl) hc, ← s.refreshed_environment.1]
  exact Layout.caution_desire _ _

theorem Warned.layout (hw : s.Warned id) (accepts : Acceptance) :
    (s.layout accepts).session.Warned id := by
  unfold Warned at hw ⊢
  rw [← cautions_refreshed] at hw
  by_cases hc : s.computes
  · obtain ⟨h, hh, hcaution⟩ := List.mem_map.mp hw
    obtain ⟨rfl, hgiven⟩ := Prod.mk.inj hcaution
    rw [cautions_layout hc]
    exact List.mem_map.mpr ⟨h, hh, by rw [hgiven, Bool.true_or]⟩
  · rw [(layout_of_not_computes hc accepts).1]
    rw [Outputs.resetDirty, List.map_map] at hw
    exact hw

theorem warned_layout (hid : id ∈ s.warned.map (·.id)) (accepts : Acceptance) :
    (s.layout accepts).session.Warned id := by
  obtain ⟨h, hh, rfl⟩ := List.mem_map.mp hid
  obtain ⟨hc, hmem, hlacks, _⟩ := mem_warned.mp hh
  unfold Warned
  rw [cautions_layout hc]
  exact List.mem_map.mpr ⟨h, hmem, by rw [hlacks, Bool.or_true]⟩

theorem sublist_ids_warned (s : Session) : (s.warned.map (·.id)).Sublist s.outputs.ids := by
  have hids : s.refreshed.outputs.resetDirty.heads.map (·.id) = s.outputs.ids := by
    have hfirst := congrArg (List.map Prod.fst) s.cautions_refreshed
    rw [List.map_map, List.map_map] at hfirst
    exact hfirst
  unfold warned
  split
  · rw [← hids]
    exact (List.filter_sublist).map _
  · exact List.nil_sublist _

theorem Warned.not_mem_warned (hw : s.Warned id) (hids : s.outputs.ids.Nodup) :
    id ∉ s.warned.map (·.id) := by
  intro hid
  have hcautions : ((s.outputs.heads.map Head.caution).map Prod.fst).Nodup := by
    rw [List.map_map]
    exact hids
  obtain ⟨h, hh, rfl⟩ := List.mem_map.mp hid
  obtain ⟨_, hmem, _, hnew⟩ := mem_warned.mp hh
  have hfresh : (h.id, false) ∈ s.outputs.heads.map Head.caution := by
    rw [← cautions_refreshed]
    exact List.mem_map.mpr ⟨h, hmem, by rw [Head.caution, hnew]⟩
  simpa using List.inj_on_of_nodup_map hcautions hw hfresh rfl

theorem nodup_ids_after (hids : s.outputs.ids.Nodup) (m : Move) :
    (s.after m).outputs.ids.Nodup := by
  cases m with
  | event e => exact nodup_ids_react (s := s.record e) hids e
  | pass accepts => exact s.ids_layout accepts ▸ hids

theorem Warned.after (hw : s.Warned id) (hids : s.outputs.ids.Nodup)
    (hstays : m.removes id = false) : (s.after m).Warned id := by
  cases m with
  | event e =>
      obtain ⟨h, hh, hcaution⟩ := List.mem_map.mp hw
      obtain ⟨rfl, -⟩ := Prod.mk.inj hcaution
      have hmem := acted_mem_react (s := s.record e) (e := e) hids hh
        (by rintro rfl; simp [Move.removes] at hstays)
      exact List.mem_map.mpr ⟨_, hmem, (caution_acted (s.record e) e h).trans hcaution⟩
  | pass accepts => exact hw.layout accepts

/-- A run warns about a head once at most, and once more for every time that it has left. -/
theorem count_warnings_le (hids : s.outputs.ids.Nodup) (moves : List Move) (id : HeadId) :
    (s.warnings moves).count id ≤ moves.countP (Move.removes id) + 1 ∧
      (s.Warned id → (s.warnings moves).count id ≤ moves.countP (Move.removes id)) := by
  -- A head that was warned about before has used up its one warning until it leaves.
  induction moves generalizing s with
  | nil => simp [warnings]
  | cons m rest ih =>
      obtain ⟨hanew, hgiven⟩ := ih (nodup_ids_after hids m)
      have hkept (hw : s.Warned id) (hstays : m.removes id = false) :=
        hgiven (hw.after hids hstays)
      cases m with
      | event e =>
          simp only [warnings, List.countP_cons]
          cases hremoves : (Move.event e).removes id with
          | true => exact ⟨Nat.le_succ_of_le hanew, fun _ => hanew⟩
          | false => exact ⟨hanew, fun hw => hkept hw hremoves⟩
      | pass accepts =>
          rw [warnings, List.count_append, List.countP_cons_of_neg (by simp [Move.removes])]
          by_cases hid : id ∈ s.warned.map (·.id)
          · have honce : (s.warned.map (·.id)).count id = 1 :=
              List.count_eq_one_of_mem (s.sublist_ids_warned.nodup hids) hid
            have hlater := hgiven (warned_layout hid accepts)
            rw [honce, Nat.add_comm]
            exact ⟨Nat.succ_le_succ hlater, fun hw => absurd hid (hw.not_mem_warned hids)⟩
          · rw [List.count_eq_zero_of_not_mem hid, Nat.zero_add]
            exact ⟨hanew, fun hw => hkept hw rfl⟩

/-- What is decided about a head that is not part of an open request follows from the configuration,
the lid and the modes that the compositor has not refused. A pass warns of the heads that it finds
without a mode, and it does so once for every time that a head is there. -/
theorem desire_follows_policy (c : Config) {heads : List Head}
    (distinct : (heads.map (·.id)).Nodup) (modes : ∀ h ∈ heads, (h.modes.map (·.id)).Nodup) :
    List.Forall₂ (fun h g => g.id = h.id ∧ (h.pending = Pending.none → Decided c heads h g))
        heads (Layout.desire c heads) ∧
      (∀ (s : Session) accepts, ∃ rest, (s.layout accepts).log =
          s.newsNotices ++ statusNotices s.status ++ s.warned.flatMap Head.reportNoMode ++ rest ∧
        ∀ n ∈ rest, n.severity = .info) ∧
      ∀ s : Session, s.outputs.ids.Nodup → ∀ moves id,
        (s.warnings moves).count id ≤ moves.countP (Move.removes id) + 1 := by
  refine ⟨?_, log_layout, fun s hids moves id => (count_warnings_le hids moves id).1⟩
  have hids : Layout.IgnoresDecision Head.id := fun _ _ _ _ => rfl
  rw [Layout.desire_eq_map distinct, List.forall₂_map_right_iff, List.forall₂_same]
  intro h hh
  exact ⟨Layout.targeted_of_ignoresDecision hids c heads h,
    fun hp => Layout.decided_targeted distinct hh hp (modes h hh)⟩

/-- A display one of whose modes was refused, a panel under the closed lid, and a display that has
no modes. -/
def threeDisplays : List Head :=
  [{ Head.blank ⟨1⟩ with
      name := some "DP-1"
      failedModes := [⟨10⟩]
      modes := [⟨⟨10⟩, 3840, 2160, 60000, true⟩, ⟨⟨11⟩, 1920, 1080, 60000, false⟩] },
    { Head.blank ⟨2⟩ with
      name := some "eDP-1"
      lidClosed := true
      enabled := true
      currentMode := some ⟨20⟩
      modes := [⟨⟨20⟩, 1280, 800, 60000, true⟩] },
    { Head.blank ⟨3⟩ with name := some "DP-3" }]

/-- The first entry for the scale of the first display is the one that counts. -/
def uprightTwice : Config :=
  { Config.default with
    scales := [⟨"DP-1", .ofNat 2⟩, ⟨"DP-1", .ofNat 1⟩]
    transforms := [⟨"DP-1", .rotate90⟩] }

/-- A display without modes that changes its description, leaves and comes back, with a pass after
each. -/
def modeless : List Move :=
  [.event (.headArrived ⟨1⟩), .event (.managerDone 1), .pass .always,
    .event (.headReported ⟨1⟩ (.description "Screen")), .pass .always,
    .event (.headFinished ⟨1⟩), .event (.headArrived ⟨1⟩), .pass .always]

theorem desire_follows_policy_threeDisplays :
    let begun := start .default ⟨"cfg.toml", true, none⟩ false
    (Layout.desire uprightTwice threeDisplays).map (fun h =>
        (h.desired.mode, h.desired.scale, h.desired.width, h.desired.height, h.isChanging)) =
      [(some ⟨11⟩, ⟨512⟩, 540, 960, true), (some ⟨20⟩, ⟨256⟩, 0, 0, true),
        (none, ⟨256⟩, 0, 0, false)] ∧
      List.Forall₂ (fun h g => g.id = h.id ∧
          (h.pending = Pending.none → Decided uprightTwice threeDisplays h g))
        threeDisplays (Layout.desire uprightTwice threeDisplays) ∧
      begun.warnings modeless = [⟨1⟩, ⟨1⟩] ∧
      (begun.warnings modeless).count ⟨1⟩ ≤ modeless.countP (Move.removes ⟨1⟩) + 1 := by
  intro begun
  have distinct : (threeDisplays.map (·.id)).Nodup := by decide
  have modes : ∀ h ∈ threeDisplays, (h.modes.map (·.id)).Nodup := by decide
  obtain ⟨hpolicy, _, honce⟩ := desire_follows_policy uprightTwice distinct modes
  exact ⟨by decide +kernel, hpolicy, by decide +kernel, honce begun List.nodup_nil modeless ⟨1⟩⟩

end Session

end OutputArranger
