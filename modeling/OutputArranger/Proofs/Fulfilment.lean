import OutputArranger.Proofs.Layout.Targets
import OutputArranger.Request

/-!
# Carrying a request out

A compositor that carries a request out does what the entries say and nothing else. When the layout
is then computed anew, a request for a mode has made one head fewer need another mode, and a request
for all that is left has left nothing to change.
-/

namespace OutputArranger

open Layout (Aimed IgnoresDecision SameDisplay kept targeted targeted_of_ignoresDecision)

/-- A head once an entry has been carried out. -/
def HeadRequest.fulfil (entry : HeadRequest) (h : Head) : Head :=
  match entry with
  | .mode _ m => { h with enabled := true, currentMode := some m }
  | .enable _ scale x y transform => { h with enabled := true, scale, x, y, transform }
  | .disable _ => { h with enabled := false }

namespace Request

/-- A head once a request has been carried out. Heads that the request does not name stay as they
are. -/
def fulfil (r : Request) (h : Head) : Head :=
  match r.heads.find? fun entry => decide (entry.head = h.id) with
  | some entry => entry.fulfil h
  | none => h

theorem sameDisplay_fulfil (r : Request) (h : Head) : SameDisplay (r.fulfil h) h := by
  unfold fulfil
  split
  · rename_i entry _
    cases entry <;> exact ⟨rfl, rfl, rfl, rfl, rfl, rfl, rfl, rfl, rfl⟩
  · exact ⟨rfl, rfl, rfl, rfl, rfl, rfl, rfl, rfl, rfl⟩

theorem head_entryFor (h : Head) : (entryFor h).head = h.id := by
  unfold entryFor
  split <;> rfl

theorem isChanging_of_needsMode {h : Head} (hn : needsMode h = true) : h.isChanging = true := by
  rw [needsMode, Bool.and_eq_true] at hn
  simp [Head.isChanging, hn.2]

theorem plan_eq_none {heads : List Head} (h : ∀ a ∈ heads, a.isChanging = false) (serial : Nat) :
    plan heads serial = none := by
  have hnil : heads.filter (·.isChanging) = [] := by
    rw [List.filter_eq_nil_iff]
    intro a ha
    simp [h a ha]
  rw [plan, hnil]

/-- A request is either for the mode of one head that needs it, or for everything that is left of
heads none of which needs a mode. -/
theorem plan_cases {heads : List Head} {serial : Nat} {r : Request}
    (h : plan heads serial = some r) :
    (∃ a ∈ heads, ∃ m, needsMode a = true ∧ a.desired.mode = some m ∧
        r = ⟨serial, [.mode a.id m]⟩) ∨
      (∀ a ∈ heads, needsMode a = false) ∧ (∃ a ∈ heads, a.isChanging = true) ∧
        r = ⟨serial, (heads.filter (·.isChanging)).map entryFor⟩ := by
  unfold plan at h
  dsimp only at h
  split at h
  · simp at h
  · rename_i hsome
    split at h
    · rename_i a hfind
      obtain ⟨m, hm, rfl⟩ := Option.map_eq_some_iff.mp h
      have ha := List.mem_filter.mp (List.mem_of_find?_eq_some hfind)
      exact Or.inl ⟨a, ha.1, m, List.find?_some hfind, hm, rfl⟩
    · rename_i hfind
      refine Or.inr ⟨?_, ?_, (Option.some.inj h).symm⟩
      · intro a ha
        by_contra hn
        rw [Bool.not_eq_false] at hn
        have hmem : a ∈ heads.filter (·.isChanging) :=
          List.mem_filter.mpr ⟨ha, isChanging_of_needsMode hn⟩
        exact List.find?_eq_none.mp hfind a hmem hn
      · obtain ⟨a, ha⟩ := List.exists_mem_of_ne_nil _ hsome
        exact ⟨a, List.mem_filter.mp ha⟩

/-- A head without all that has no part in a request. -/
def bare (h : Head) : Head :=
  { Head.blank h.id with
    enabled := h.enabled
    currentMode := h.currentMode
    x := h.x
    y := h.y
    transform := h.transform
    scale := h.scale
    desired := h.desired }

theorem plan_map_bare (heads : List Head) (serial : Nat) :
    plan (heads.map bare) serial = plan heads serial := by
  have hchanging : (heads.map bare).filter (·.isChanging) =
      (heads.filter (·.isChanging)).map bare := List.filter_map
  have hfind (l : List Head) : (l.map bare).find? needsMode = (l.find? needsMode).map bare :=
    List.find?_map
  have hentries (l : List Head) : (l.map bare).map entryFor = l.map entryFor := by
    rw [List.map_map]
    rfl
  simp only [plan, hchanging]
  cases heads.filter (·.isChanging) with
  | nil => rfl
  | cons h rest =>
      rw [List.map_cons, ← List.map_cons, hfind, hentries]
      cases (h :: rest).find? needsMode <;> rfl

variable {c : Config} {heads : List Head} {r : Request} {h : Head}

/-- A request has at most one entry for a head. -/
theorem nodup_of_plan (hids : (heads.map (·.id)).Nodup) {serial : Nat}
    (hr : plan heads serial = some r) : (r.heads.map HeadRequest.head).Nodup := by
  rcases plan_cases hr with ⟨a, _, m, _, _, rfl⟩ | ⟨_, _, rfl⟩
  · exact List.nodup_singleton a.id
  · have hheads : HeadRequest.head ∘ entryFor = (·.id) := funext head_entryFor
    rw [List.map_map, hheads]
    exact hids.sublist (List.filter_sublist.map _)

/-- What becomes of a head when a request is carried out and the layout is computed anew. -/
def renewed (c : Config) (heads : List Head) (r : Request) (h : Head) : Head :=
  targeted c (heads.map r.fulfil) (r.fulfil h)

theorem desire_fulfil (ha : Aimed c heads) (r : Request) :
    Layout.desire c (heads.map r.fulfil) = heads.map (renewed c heads r) := by
  have hsame : (heads.map r.fulfil).map (·.id) = heads.map (·.id) := by
    rw [List.map_map]
    exact List.map_congr_left fun h _ => (sameDisplay_fulfil r h).id
  have hids : ((heads.map r.fulfil).map (·.id)).Nodup := by
    rw [hsame]
    exact ha.distinct
  rw [Layout.desire_eq_map hids, List.map_map]
  rfl

/-- Whether a head still needs a mode depends on its present mode alone. -/
theorem needsMode_renewed (ha : Aimed c heads) (hh : h ∈ heads) :
    needsMode (renewed c heads r h) =
      (h.desired.enabled &&
        (h.desired.mode.isSome && h.desired.mode != (r.fulfil h).currentMode)) := by
  have hdesired := ha.desired_targeted (fun h _ => sameDisplay_fulfil r h) hh
  have hview : IgnoresDecision Head.currentMode := fun _ _ _ _ => rfl
  rw [renewed, needsMode, Head.isModeChanging, hdesired, targeted_of_ignoresDecision hview]
  cases hon : h.desired.enabled <;> simp [hon, kept]

/-- The head whose mode was set needs none any more, and no other head needs one that needed none
before. -/
theorem countP_needsMode_desire_lt (ha : Aimed c heads) {a : Head} (hmem : a ∈ heads) {m : ModeId}
    (hneeds : needsMode a = true) (hm : a.desired.mode = some m) (serial : Nat) :
    (Layout.desire c (heads.map (fulfil ⟨serial, [.mode a.id m]⟩))).countP needsMode <
      heads.countP needsMode := by
  have hown : (fulfil ⟨serial, [.mode a.id m]⟩ a).currentMode = some m := by
    simp [fulfil, HeadRequest.head, HeadRequest.fulfil]
  have hother {h : Head} (hid : a.id ≠ h.id) : fulfil ⟨serial, [.mode a.id m]⟩ h = h := by
    simp [fulfil, HeadRequest.head, hid]
  have hrenewed {h : Head} (hh : h ∈ heads) :=
    needsMode_renewed (r := ⟨serial, [.mode a.id m]⟩) ha hh
  have hgone : needsMode (renewed c heads ⟨serial, [.mode a.id m]⟩ a) = false := by
    rw [hrenewed hmem, hown, hm]
    simp
  rw [desire_fulfil ha, List.countP_map]
  refine countP_lt_countP ?_ hmem hneeds hgone
  intro h hh hstill
  by_cases hid : a.id = h.id
  · rw [← List.inj_on_of_nodup_map ha.distinct hmem hh hid]
    exact hneeds
  · rw [Function.comp_apply, hrenewed hh, hother hid] at hstill
    exact hstill

/-- A request for all that is left has one entry for every head that is changing. -/
theorem find?_entries (hids : (heads.map (·.id)).Nodup) (hh : h ∈ heads) :
    ((heads.filter (·.isChanging)).map entryFor).find? (fun entry => decide (entry.head = h.id)) =
      if h.isChanging then some (entryFor h) else none := by
  have hkey : (fun entry : HeadRequest => decide (entry.head = h.id)) ∘ entryFor =
      fun a => decide (a.id = h.id) := by
    funext a
    simp only [Function.comp_apply, head_entryFor]
  rw [List.find?_map, hkey]
  split
  · rename_i hchanging
    have hkeys : ((heads.filter (·.isChanging)).map (·.id)).Nodup :=
      hids.sublist (List.filter_sublist.map _)
    rw [find?_eq_some_of_mem hkeys (List.mem_filter.mpr ⟨hh, hchanging⟩)]
    rfl
  · rename_i hstill
    rw [Option.map_eq_none_iff, List.find?_eq_none]
    intro a ha hid
    rw [List.mem_filter] at ha
    have hsame := List.inj_on_of_nodup_map hids ha.1 hh (of_decide_eq_true hid)
    exact hstill (hsame ▸ ha.2)

/-- Whether a head still has to change is told from its old target if it shall be on. If not, it has
to change only for as long as it is on. -/
theorem isChanging_renewed (ha : Aimed c heads) (hh : h ∈ heads) :
    (renewed c heads r h).isChanging =
      if h.desired.enabled then ({ r.fulfil h with desired := h.desired } : Head).isChanging
      else (r.fulfil h).enabled := by
  have hdesired := ha.desired_targeted (fun h _ => sameDisplay_fulfil r h) hh
  have reported {α : Type} {g : Head → α} (hg : IgnoresDecision g) :=
    targeted_of_ignoresDecision hg c (heads.map r.fulfil) (r.fulfil h)
  rw [Head.isChanging, Head.isModeChanging, renewed, hdesired,
    reported (g := Head.enabled) fun _ _ _ _ => rfl,
    reported (g := Head.currentMode) fun _ _ _ _ => rfl,
    reported (g := Head.scale) fun _ _ _ _ => rfl,
    reported (g := Head.transform) fun _ _ _ _ => rfl,
    reported (g := Head.x) fun _ _ _ _ => rfl, reported (g := Head.y) fun _ _ _ _ => rfl]
  cases h.desired.enabled with
  | false => simp [kept]
  | true => rfl

theorem fulfil_entries (hids : (heads.map (·.id)).Nodup) (serial : Nat) (hh : h ∈ heads) :
    fulfil ⟨serial, (heads.filter (·.isChanging)).map entryFor⟩ h =
      if h.isChanging then (entryFor h).fulfil h else h := by
  rw [fulfil, find?_entries hids hh]
  cases h.isChanging <;> rfl

/-- Once everything that is left was carried out, no head is changing. -/
theorem isChanging_renewed_entries (ha : Aimed c heads)
    (hneeds : ∀ a ∈ heads, needsMode a = false) (serial : Nat) (hh : h ∈ heads) :
    (renewed c heads ⟨serial, (heads.filter (·.isChanging)).map entryFor⟩ h).isChanging =
      false := by
  rw [isChanging_renewed ha hh, fulfil_entries ha.distinct serial hh]
  have hneed := hneeds h hh
  by_cases hchanging : h.isChanging = true
  · rw [if_pos hchanging, entryFor]
    cases hon : h.desired.enabled with
    | false => simp [HeadRequest.fulfil]
    | true =>
        -- The entry says nothing of the mode, and it need not: no head needs another one.
        rw [needsMode, hon, Bool.true_and, Head.isModeChanging] at hneed
        simp [HeadRequest.fulfil, Head.isChanging, Head.isModeChanging, hneed, hon]
  · rw [if_neg hchanging]
    rw [Bool.not_eq_true] at hchanging
    cases hon : h.desired.enabled with
    | false =>
        simp only [Head.isChanging, hon, Bool.or_eq_false_iff, bne_eq_false_iff_eq] at hchanging
        simp [← hchanging.1.1.1.1.2]
    | true => simpa using hchanging

/-- A request has an entry for a head that is there. -/
theorem exists_entry_of_plan (hids : (heads.map (·.id)).Nodup) {serial : Nat}
    (hr : plan heads serial = some r) :
    ∃ h ∈ heads, ∃ entry, r.heads.find? (fun entry => decide (entry.head = h.id)) = some entry := by
  rcases plan_cases hr with ⟨a, ha, m, _, _, rfl⟩ | ⟨_, ⟨a, ha, hchanging⟩, rfl⟩
  · exact ⟨a, ha, .mode a.id m, by simp [HeadRequest.head]⟩
  · refine ⟨a, ha, entryFor a, ?_⟩
    rw [find?_entries hids ha, if_pos hchanging]

/-- How far a request brings the heads: either fewer of them need another mode than before, or
nothing is left to change. -/
theorem progress (ha : Aimed c heads) {serial : Nat} (hr : plan heads serial = some r) :
    (Layout.desire c (heads.map r.fulfil)).countP needsMode < heads.countP needsMode ∨
      ∀ next, plan (Layout.desire c (heads.map r.fulfil)) next = none := by
  rcases plan_cases hr with ⟨a, hmem, m, hneeds, hm, rfl⟩ | ⟨hneeds, _, rfl⟩
  · exact Or.inl (countP_needsMode_desire_lt ha hmem hneeds hm serial)
  · refine Or.inr fun next => plan_eq_none ?_ next
    rw [desire_fulfil ha]
    intro b hb
    obtain ⟨h, hh, rfl⟩ := List.mem_map.mp hb
    exact isChanging_renewed_entries ha hneeds serial hh

end Request

end OutputArranger
