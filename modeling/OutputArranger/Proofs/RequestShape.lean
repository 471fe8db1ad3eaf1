import OutputArranger.Proofs.Layout.ModeChoice
import OutputArranger.Proofs.Session.Rounds

/-!
# The shape of a request

A request is for the mode of one head, or for everything else that is left to change of all heads.
What it asks for makes sense for the heads that it names, which does not follow from how it is
planned: a plan for arbitrary heads could switch a head off that is off. It follows from what a
computation of the layout decides about every head.
-/

namespace OutputArranger

open Layout (Aimed)

/-- Two heads of which one has a part in an open request look the same otherwise. -/
def Head.unmarked (h : Head) : Head := { h with pending := .none }

namespace Request

/-- A request for the mode of the first head that shall be on and needs another one. -/
structure IsModeChange (r : Request) (heads : List Head) (h : Head) (m : Mode) : Prop where
  alone : r.heads = [.mode h.id m.id]
  first : heads.find? needsMode = some h
  offered : m ∈ h.modes
  untried : m.id ∉ h.failedModes
  new : h.currentMode ≠ some m.id

/-- A request for everything that is left to change, none of it a mode. -/
structure IsBundle (r : Request) (heads : List Head) : Prop where
  no_mode : ∀ h m, HeadRequest.mode h m ∉ r.heads
  complete : r.heads.map HeadRequest.head = (heads.filter (·.isChanging)).map (·.id)
  enable : ∀ h ∈ heads, ∀ scale x y t, HeadRequest.enable h.id scale x y t ∈ r.heads →
    h.desired.enabled = true ∧ h.desired.mode = h.currentMode ∧ scale = h.desired.scale ∧
      x = h.desired.x ∧ y = h.desired.y ∧ t = h.desired.transform
  disable : ∀ h ∈ heads, HeadRequest.disable h.id ∈ r.heads →
    h.desired.enabled = false ∧ h.enabled = true

variable {c : Config} {heads : List Head} {r : Request} {serial : Nat}

theorem find?_changing (heads : List Head) :
    (heads.filter (·.isChanging)).find? needsMode = heads.find? needsMode := by
  rw [List.find?_filter]
  congr 1
  funext h
  cases hneeds : needsMode h with
  | false => simp
  | true => simp [isChanging_of_needsMode hneeds]

theorem plan_of_find? (serial : Nat) {h : Head} {m : ModeId}
    (hfind : heads.find? needsMode = some h)
    (hm : h.desired.mode = some m) : plan heads serial = some ⟨serial, [.mode h.id m]⟩ := by
  have hchanging : heads.filter (·.isChanging) ≠ [] := by
    refine List.ne_nil_of_mem (List.mem_filter.mpr ⟨List.mem_of_find?_eq_some hfind, ?_⟩)
    exact isChanging_of_needsMode (List.find?_some hfind)
  unfold plan
  dsimp only
  split
  · rename_i hnil
    exact absurd hnil hchanging
  · rw [find?_changing, hfind]
    simp only [hm, Option.map_some]

/-- Nothing is asked for exactly when no head is changing. -/
theorem plan_eq_none_iff : plan heads serial = none ↔ ∀ h ∈ heads, h.isChanging = false := by
  refine ⟨?_, fun h => plan_eq_none h serial⟩
  intro hnone
  by_contra hsome
  push Not at hsome
  obtain ⟨h, hh, hchanging⟩ := hsome
  have hmem : h ∈ heads.filter (·.isChanging) :=
    List.mem_filter.mpr ⟨hh, by simpa using hchanging⟩
  unfold plan at hnone
  dsimp only at hnone
  split at hnone
  · rename_i hnil
    simp [hnil] at hmem
  · split at hnone
    · rename_i a hfind
      have hneeds : needsMode a = true := List.find?_some hfind
      simp only [needsMode, Head.isModeChanging, Bool.and_eq_true] at hneeds
      rw [Option.map_eq_none_iff] at hnone
      simp [hnone] at hneeds
    · simp at hnone

/-- The heads that a request names are there, each once, in the order in which they are listed. -/
theorem sublist_of_plan (h : plan heads serial = some r) :
    r.heads ≠ [] ∧ (r.heads.map HeadRequest.head).Sublist (heads.map (·.id)) := by
  rcases plan_cases h with ⟨a, ha, m, _, _, rfl⟩ | ⟨_, ⟨a, ha, hchanging⟩, rfl⟩
  · refine ⟨by simp, ?_⟩
    exact List.singleton_sublist.mpr (List.mem_map_of_mem ha)
  · constructor
    · have hmem : a ∈ heads.filter (·.isChanging) := List.mem_filter.mpr ⟨ha, hchanging⟩
      simpa using List.ne_nil_of_mem hmem
    · have hheads : HeadRequest.head ∘ entryFor = (·.id) := funext head_entryFor
      rw [List.map_map, hheads]
      exact List.filter_sublist.map _

theorem isModeChange_of_needsMode (serial : Nat) (ha : Aimed c heads) {a : Head} {id : ModeId}
    (hfirst : heads.find? needsMode = some a) (hid : a.desired.mode = some id) :
    ∃ m, m.id = id ∧ IsModeChange ⟨serial, [.mode a.id id]⟩ heads a m := by
  have hneeds : needsMode a = true := List.find?_some hfirst
  rw [needsMode, Head.isModeChanging, Bool.and_eq_true, Bool.and_eq_true, bne_iff_ne] at hneeds
  obtain ⟨m, hm, hmode⟩ := ha.exists_mode (List.mem_of_find?_eq_some hfirst) hneeds.1
  obtain rfl : m.id = id := Option.some.inj (hmode.symm.trans hid)
  rw [Head.usableModes, List.mem_filter, decide_eq_true_eq] at hm
  refine ⟨m, rfl, rfl, hfirst, hm.1, hm.2, ?_⟩
  intro hcurrent
  exact hneeds.2.2 (hmode.trans hcurrent.symm)

theorem isBundle_of_changing (ha : Aimed c heads) (hneeds : ∀ h ∈ heads, needsMode h = false) :
    IsBundle ⟨serial, (heads.filter (·.isChanging)).map entryFor⟩ heads := by
  have hheads : HeadRequest.head ∘ entryFor = (·.id) := funext head_entryFor
  -- An entry that names a head is the one that was made for it.
  have entry_of_mem {h : Head} {entry : HeadRequest} (hh : h ∈ heads) (hid : entry.head = h.id)
      (hmem : entry ∈ (heads.filter (·.isChanging)).map entryFor) :
      h.isChanging = true ∧ entry = entryFor h := by
    obtain ⟨a, hfilter, rfl⟩ := List.mem_map.mp hmem
    obtain ⟨hamem, hchanging⟩ := List.mem_filter.mp hfilter
    rw [head_entryFor] at hid
    obtain rfl := List.inj_on_of_nodup_map ha.distinct hamem hh hid
    exact ⟨hchanging, rfl⟩
  refine ⟨?_, ?_, ?_, ?_⟩
  · intro h m hmem
    obtain ⟨a, _, hentry⟩ := List.mem_map.mp hmem
    unfold entryFor at hentry
    split at hentry <;> simp at hentry
  · rw [List.map_map, hheads]
  · intro h hh scale x y t hmem
    obtain ⟨_, hentry⟩ := entry_of_mem hh rfl hmem
    cases hon : h.desired.enabled with
    | false => simp [entryFor, hon] at hentry
    | true =>
        simp only [entryFor, hon, if_true, HeadRequest.enable.injEq, true_and] at hentry
        obtain ⟨m, _, hm⟩ := ha.exists_mode hh hon
        have hsame := hneeds h hh
        rw [needsMode, hon, Bool.true_and, Head.isModeChanging, hm, Option.isSome_some,
          Bool.true_and, bne_eq_false_iff_eq, ← hm] at hsame
        exact ⟨rfl, hsame, hentry⟩
  · intro h hh hmem
    obtain ⟨hchanging, hentry⟩ := entry_of_mem hh rfl hmem
    cases hon : h.desired.enabled with
    | true => simp [entryFor, hon] at hentry
    | false =>
        refine ⟨rfl, ?_⟩
        simpa [Head.isChanging, Head.isModeChanging, ha.kept hh hon, Layout.kept] using hchanging

/-- Every request for heads for which the layout has just been computed has one of two shapes. -/
theorem shape_of_plan (ha : Aimed c heads) (h : plan heads serial = some r) :
    (∃ h m, r.IsModeChange heads h m) ∨ r.IsBundle heads := by
  cases hfirst : heads.find? needsMode with
  | some a =>
      have hneeds : needsMode a = true := List.find?_some hfirst
      rw [needsMode, Bool.and_eq_true] at hneeds
      obtain ⟨m, _, hm⟩ := ha.exists_mode (List.mem_of_find?_eq_some hfirst) hneeds.1
      obtain rfl := Option.some.inj ((plan_of_find? serial hfirst hm).symm.trans h)
      obtain ⟨m, _, hshape⟩ := isModeChange_of_needsMode serial ha hfirst hm
      exact Or.inl ⟨a, m, hshape⟩
  | none =>
      have hnone : ∀ a ∈ heads, needsMode a = false := by
        intro a ha
        simpa using List.find?_eq_none.mp hfirst a ha
      rcases plan_cases h with ⟨a, hmem, _, hneeds, _⟩ | ⟨_, _, rfl⟩
      · simp [hnone a hmem] at hneeds
      · exact Or.inr (isBundle_of_changing ha hnone)

theorem heads_of_modeChange? {id : HeadId} {m : ModeId} (h : r.modeChange? = some (id, m)) :
    r.heads = [.mode id m] := by
  unfold modeChange? at h
  split at h
  · rename_i hheads
    obtain ⟨rfl, rfl⟩ := Prod.mk.inj (Option.some.inj h)
    exact hheads
  · simp at h

/-- A request for a mode of a head is for a usable one, and the head is the first that needs one. -/
theorem usable_of_modeChange? (ha : Aimed c heads) (h : plan heads serial = some r) {a : Head}
    (hmem : a ∈ heads) {m : ModeId} (hchange : r.modeChange? = some (a.id, m)) :
    heads.find? needsMode = some a ∧ ∃ mode ∈ a.usableModes, mode.id = m := by
  have hheads := heads_of_modeChange? hchange
  rcases shape_of_plan ha h with ⟨b, mode, hmode⟩ | hbundle
  · have halone := hmode.alone
    rw [hheads, List.singleton_inj, HeadRequest.mode.injEq] at halone
    obtain rfl := List.inj_on_of_nodup_map ha.distinct hmem
      (List.mem_of_find?_eq_some hmode.first) halone.1
    exact ⟨hmode.first, mode, List.mem_filter.mpr ⟨hmode.offered, by simpa using hmode.untried⟩,
      halone.2.symm⟩
  · exact absurd (hheads ▸ List.mem_singleton_self _) (hbundle.no_mode a.id m)

/-! ## Heads with a part in the request -/

theorem IsModeChange.of_unmarked {a : Head} {m : Mode}
    (hr : r.IsModeChange (heads.map Head.unmarked) a m) : ∃ h, r.IsModeChange heads h m := by
  have hfirst := hr.first
  rw [List.find?_map] at hfirst
  obtain ⟨h, hfind, rfl⟩ := Option.map_eq_some_iff.mp hfirst
  exact ⟨h, hr.alone, hfind, hr.offered, hr.untried, hr.new⟩

theorem IsBundle.of_unmarked (hr : r.IsBundle (heads.map Head.unmarked)) : r.IsBundle heads := by
  refine ⟨hr.no_mode, ?_, ?_, ?_⟩
  · have hcomplete := hr.complete
    rw [List.filter_map, List.map_map] at hcomplete
    exact hcomplete
  · intro h hh
    exact hr.enable h.unmarked (List.mem_map_of_mem hh)
  · intro h hh
    exact hr.disable h.unmarked (List.mem_map_of_mem hh)

end Request

namespace Session

/-- The heads after a pass that computes the layout are those that it has computed, some of them
with a part in the request that it sends. -/
theorem unmarked_layout {s : Session} (hs : s.Sound) (hc : s.computes) (accepts : Acceptance) :
    (s.layout accepts).session.outputs.heads.map Head.unmarked = s.aimed.outputs.heads := by
  have hidle : s.aimed.outputs.heads.map Head.unmarked = s.aimed.outputs.heads := by
    obtain ⟨_, _, hclosed⟩ := hs.aimed hc.1
    conv_rhs => rw [← List.map_id s.aimed.outputs.heads]
    refine List.map_congr_left fun h hh => ?_
    have hp : h.pending = Pending.none := hclosed h.stake (List.mem_map_of_mem hh)
    simp only [Head.unmarked, ← hp, id]
  exact (map_layout_of_computes (by intro _ _; rfl) hc accepts).trans hidle

theorem plan_of_sent {s : Session} {accepts : Acceptance} {r : Request}
    (hsent : (s.layout accepts).sent = some r) :
    s.computes ∧ Request.plan s.aimed.outputs.heads s.aimed.outputs.serial = some r := by
  cases s.layout_ending accepts with
  | sending q hc hplan _ _ hq =>
      obtain rfl := Option.some.inj (hq.symm.trans hsent)
      exact ⟨hc, hplan⟩
  | _ => simp_all

/-- A pass that computes the layout asks for nothing exactly when no head is changing any more. -/
theorem Sound.asks_nothing_iff {s : Session} (hs : s.Sound) (hc : s.computes)
    (accepts : Acceptance) :
    (s.layout accepts).sent = none ∧ (s.layout accepts).error = none ↔
      ∀ h ∈ (s.layout accepts).session.outputs.heads, h.isChanging = false := by
  have hplan : (∀ h ∈ (s.layout accepts).session.outputs.heads, h.isChanging = false) ↔
      Request.plan s.aimed.outputs.heads s.aimed.outputs.serial = none := by
    rw [Request.plan_eq_none_iff, ← unmarked_layout hs hc accepts, List.forall_mem_map]
    rfl
  rw [hplan]
  cases s.layout_ending accepts with
  | waiting ho => exact absurd ho hc.1
  | standingBack hs => exact absurd hs hc.2.1
  | resting _ _ hdue => simp [hc.2.2] at hdue
  | agreeing _ hnone _ hsent herror => simp [hnone, hsent, herror]
  | refused r e _ hsome _ _ _ herror => simp [hsome, herror]
  | sending r _ hsome _ _ hsent => simp [hsome, hsent]

/-- Every request that a pass sends, wherever a run has led, is about heads that are there, each
named once and in the order of their discovery. It is either for the mode of the first head that
shall be on and needs another one, which is a mode that the head offers, that it is not in, and that
has not been refused; or it has one entry for every head that is changing, none of them for a mode,
which switches on and arranges heads that are in the right mode and switches off heads that are on.
A pass that computes the layout asks for nothing exactly when no head is changing. -/
theorem sent_has_shape (config : Config) (file : ConfigFile) (recorded : Bool)
    (moves : List Move) (accepts : Acceptance) :
    let s := (start config file recorded).run moves
    let p := s.layout accepts
    (∀ r, p.sent = some r →
      r.heads ≠ [] ∧ (r.heads.map HeadRequest.head).Sublist p.session.outputs.ids ∧
        (r.heads.map HeadRequest.head).Nodup ∧
        ((∃ h m, r.IsModeChange p.session.outputs.heads h m) ∨
          r.IsBundle p.session.outputs.heads)) ∧
      (s.computes →
        (p.sent = none ∧ p.error = none ↔
          ∀ h ∈ p.session.outputs.heads, h.isChanging = false)) := by
  intro s p
  have hs : s.Sound := Reachable.sound ⟨config, file, recorded, moves, rfl⟩
  refine ⟨?_, fun hc => hs.asks_nothing_iff hc accepts⟩
  intro r hsent
  obtain ⟨hc, hplan⟩ := plan_of_sent hsent
  have hunmarked : p.session.outputs.heads.map Head.unmarked = s.aimed.outputs.heads :=
    unmarked_layout hs hc accepts
  have hids : p.session.outputs.ids = s.aimed.outputs.heads.map (·.id) := by
    rw [← hunmarked, List.map_map]
    rfl
  have haimed := hs.aimed_heads hc.1
  obtain ⟨hsome, hsublist⟩ := Request.sublist_of_plan hplan
  refine ⟨hsome, hids ▸ hsublist, Request.nodup_of_plan haimed.distinct hplan, ?_⟩
  rcases Request.shape_of_plan haimed hplan with ⟨a, m, hmode⟩ | hbundle
  · rw [← hunmarked] at hmode
    obtain ⟨h, hh⟩ := hmode.of_unmarked
    exact Or.inl ⟨h, m, hh⟩
  · rw [← hunmarked] at hbundle
    exact Or.inr hbundle.of_unmarked

end Session

end OutputArranger
