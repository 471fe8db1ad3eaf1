import Mathlib.Data.List.Forall2
import OutputArranger.Proofs.Layout.Recomputation

/-!
# Targets do not depend on what they change

A head that shall be on becomes what its display, the configuration and the other displays ask for,
whatever its present mode, scale, transform and position are. A head that shall not be on keeps all
of these. So when a request is carried out, and every target is computed from scratch again, the
targets of the heads that shall be on come out the same.
-/

namespace OutputArranger.Layout

/-! ## Order and places -/

/-- What two heads have in common that are put in the same place. -/
structure Alike (g h : Head) : Prop where
  id : g.id = h.id
  name : g.name = h.name
  description : g.description = h.description
  room : takesRoom g = takesRoom h
  width : g.desired.width = h.desired.width
  height : g.desired.height = h.desired.height

theorem Alike.isSelectedBy {g h : Head} (hs : Alike g h) (pattern : String) :
    g.isSelectedBy pattern = h.isSelectedBy pattern := by
  rw [Head.isSelectedBy, hs.name, hs.description, Head.isSelectedBy]

theorem filter_alike {gs hs : List Head} {p : Head → Bool}
    (hp : ∀ g h, Alike g h → p g = p h) (h : List.Forall₂ Alike gs hs) :
    List.Forall₂ Alike (gs.filter p) (hs.filter p) := by
  refine List.rel_filter (fun g h hgh => ?_) h
  exact iff_of_eq (congrArg (· = true) (hp g h hgh))

theorem orderHeads_alike {gs hs : List Head} (h : List.Forall₂ Alike gs hs)
    (patterns : List String) :
    List.Forall₂ Alike (orderHeads patterns gs) (orderHeads patterns hs) := by
  induction patterns generalizing gs hs with
  | nil => exact h
  | cons pattern rest ih =>
      unfold orderHeads
      refine List.rel_append (filter_alike ?_ h) (ih (filter_alike ?_ h))
      · exact fun g h hgh => hgh.isSelectedBy pattern
      · exact fun g h hgh => congrArg not (hgh.isSelectedBy pattern)

theorem placeFrom_alike {gs hs : List Head} (h : List.Forall₂ Alike gs hs) (arrange : Arrange)
    (align : Align) (room start : Int) :
    placeFrom arrange align room start gs = placeFrom arrange align room start hs := by
  induction h generalizing start with
  | nil => rfl
  | cons hgh _ ih => cases arrange <;> simp only [placeFrom, hgh.id, hgh.width, hgh.height, ih]

theorem place_alike {gs hs : List Head} (h : List.Forall₂ Alike gs hs) (arrange : Arrange)
    (align : Align) : place arrange align gs = place arrange align hs := by
  have hroom := filter_alike (fun _ _ hgh => hgh.room) h
  have sizes {f : Head → Int} (hf : ∀ g h, Alike g h → f g = f h) :
      (gs.filter takesRoom).map f = (hs.filter takesRoom).map f := by
    rw [← List.forall₂_eq_eq_eq]
    exact List.rel_map (fun g h hgh => hf g h hgh) hroom
  unfold place
  cases arrange with
  | row =>
      simp only [sizes (f := (·.desired.height)) fun _ _ h => h.height]
      exact placeFrom_alike hroom .row align _ 0
  | column =>
      simp only [sizes (f := (·.desired.width)) fun _ _ h => h.width]
      exact placeFrom_alike hroom .column align _ 0

theorem orderHeads_perm (patterns : List String) (heads : List Head) :
    (orderHeads patterns heads).Perm heads := by
  induction patterns generalizing heads with
  | nil => exact List.Perm.refl heads
  | cons pattern rest ih =>
      unfold orderHeads
      exact ((ih _).append_left _).trans (List.filter_append_perm _ heads)

theorem map_head_placeFrom (arrange : Arrange) (align : Align) (room start : Int)
    (heads : List Head) :
    (placeFrom arrange align room start heads).map (·.head) = heads.map (·.id) := by
  induction heads generalizing start with
  | nil => rfl
  | cons h rest ih => cases arrange <;> simp only [placeFrom, List.map_cons, ih]

/-- Exactly the heads that take room are placed, each of them once. -/
theorem heads_placements_perm (c : Config) (heads : List Head) :
    ((placements c heads).map (·.head)).Perm
      (((decided c heads).filter takesRoom).map (·.id)) := by
  simp only [placements, place, map_head_placeFrom]
  exact ((orderHeads_perm c.order _).filter takesRoom).map _

theorem ids_decided (c : Config) (heads : List Head) :
    (decided c heads).map (·.id) = heads.map (·.id) := by
  rw [decided, List.map_map]
  exact List.map_congr_left fun h _ => id_desireHead c _ h

theorem nodup_placements {c : Config} {heads : List Head} (hids : (heads.map (·.id)).Nodup) :
    ((placements c heads).map (·.head)).Nodup := by
  rw [(heads_placements_perm c heads).nodup_iff]
  refine List.Nodup.sublist (List.filter_sublist.map _) ?_
  rw [ids_decided]
  exact hids

/-! ## Decisions -/

/-- What two heads have in common that show the same display: all that a decision looks at, but
nothing that a request can change. -/
structure SameDisplay (g h : Head) : Prop where
  id : g.id = h.id
  name : g.name = h.name
  description : g.description = h.description
  widthMm : g.widthMm = h.widthMm
  heightMm : g.heightMm = h.heightMm
  lidClosed : g.lidClosed = h.lidClosed
  failedModes : g.failedModes = h.failedModes
  modes : g.modes = h.modes
  pending : g.pending = h.pending

variable {c : Config} {sole : Bool} {g h : Head}

theorem wanted_of_off (hoff : (wanted c sole h).enabled = false) : wanted c sole h = kept h := by
  unfold wanted at hoff ⊢
  split
  · rfl
  · rename_i hon
    rw [if_neg hon] at hoff
    cases hbest : bestMode c h with
    | none => rfl
    | some best => simp [hbest] at hoff

theorem isSome_mode_wanted (hon : (wanted c sole h).enabled = true) :
    (wanted c sole h).mode.isSome = true := by
  unfold wanted at hon ⊢
  split
  · rename_i hoff
    simp [hoff] at hon
  · rename_i hmay
    rw [if_neg hmay] at hon
    cases hbest : bestMode c h with
    | none => simp [hbest] at hon
    | some best => rfl

/-- The decisions about two heads that show the same display differ only where the heads stand and,
if the display shall not be on, in what stays as it is. -/
theorem wanted_sameDisplay (hs : SameDisplay g h) (c : Config) (sole : Bool) :
    wanted c sole g =
      if (wanted c sole h).enabled then { wanted c sole h with x := g.x, y := g.y }
      else kept g := by
  have selected (pattern : String) : g.isSelectedBy pattern = h.isSelectedBy pattern := by
    rw [Head.isSelectedBy, hs.name, hs.description, Head.isSelectedBy]
  have selectedByAny (patterns : List String) :
      selectedByAny patterns g = selectedByAny patterns h := by
    simp only [Layout.selectedByAny, selected]
  have may : mayBeOn c sole g = mayBeOn c sole h := by
    rw [mayBeOn, hs.lidClosed, selectedByAny, mayBeOn]
  have best : bestMode c g = bestMode c h := by
    rw [bestMode, selectedByAny, Head.usableModes, hs.failedModes, hs.modes, bestMode,
      Head.usableModes]
  have mode (m : ModeId) : g.mode? m = h.mode? m := by
    rw [Head.mode?, hs.modes, Head.mode?]
  have scale (m : Option Mode) : wantedScale c g m = wantedScale c h m := by
    simp only [wantedScale, selected, hs.widthMm, hs.heightMm]
  have transform : wantedTransform c g = wantedTransform c h := by
    simp only [wantedTransform, selected]
  unfold wanted
  simp only [may, best, mode, scale, transform]
  by_cases hmay : mayBeOn c sole h = true
  · cases hbest : bestMode c h with
    | none => simp [hmay, kept]
    | some b => simp [hmay]
  · simp [hmay, kept]

/-- About a head that is not part of an open request a decision is made. -/
theorem desireHead_of_idle (hp : h.pending = Pending.none) (c : Config) (sole : Bool) :
    desireHead c sole h =
      { h with
        desired := wanted c sole h
        wantsFastest := selectedByAny c.fastest h
        warnedNoMode := h.warnedNoMode || lacksMode c sole h } := by
  have hany : h.pending.any = false := by
    rw [hp]
    rfl
  rw [desireHead, hany]
  rfl

theorem desired_desireHead (hp : h.pending = Pending.none) (c : Config) (sole : Bool) :
    (desireHead c sole h).desired = wanted c sole h := by
  rw [desireHead_of_idle hp]

/-- A head takes room exactly when it shall be on: it has a mode then. -/
theorem takesRoom_desireHead (hp : h.pending = Pending.none) (c : Config) (sole : Bool) :
    takesRoom (desireHead c sole h) = (wanted c sole h).enabled := by
  rw [takesRoom, desired_desireHead hp]
  cases hon : (wanted c sole h).enabled with
  | false => rfl
  | true => rw [isSome_mode_wanted hon, Bool.and_self]

theorem alike_desireHead (hs : SameDisplay g h) (hp : h.pending = Pending.none) (c : Config)
    (sole : Bool) : Alike (desireHead c sole g) (desireHead c sole h) := by
  have hq : g.pending = Pending.none := hs.pending.trans hp
  have hwanted := wanted_sameDisplay hs c sole
  have hroom : takesRoom (desireHead c sole g) = takesRoom (desireHead c sole h) := by
    rw [takesRoom_desireHead hq, takesRoom_desireHead hp, hwanted]
    cases hon : (wanted c sole h).enabled <;> simp [hon, kept]
  rw [desireHead_of_idle hq, desireHead_of_idle hp] at hroom ⊢
  refine ⟨hs.id, hs.name, hs.description, hroom, ?_, ?_⟩
  · dsimp only
    rw [hwanted]
    cases hon : (wanted c sole h).enabled <;> simp [wanted_of_off, hon, kept]
  · dsimp only
    rw [hwanted]
    cases hon : (wanted c sole h).enabled <;> simp [wanted_of_off, hon, kept]

/-! ## Targets -/

/-- What becomes of one of several heads. -/
def targeted (c : Config) (heads : List Head) (h : Head) : Head :=
  match (placements c heads).find? fun p => decide (p.head = h.id) with
  | some p => move p (desireHead c (isSole heads) h)
  | none => desireHead c (isSole heads) h

variable {heads : List Head} {f : Head → Head}

theorem isSole_map (f : Head → Head) (heads : List Head) :
    isSole (heads.map f) = isSole heads := by
  rw [isSole, List.length_map, isSole]

theorem desire_eq_map (hids : (heads.map (·.id)).Nodup) (c : Config) :
    desire c heads = heads.map (targeted c heads) := by
  have hkeys : ((decided c heads).map (·.id)).Nodup := (ids_decided c heads).symm ▸ hids
  rw [desire_eq, foldl_updateFirst_eq_map id_move (nodup_placements hids) hkeys, decided,
    List.map_map]
  refine List.map_congr_left fun h _ => ?_
  simp only [Function.comp_apply, targeted, id_desireHead]
  cases (placements c heads).find? fun p => decide (p.head = h.id) <;> rfl

/-- A head has a place exactly when it shall be on. -/
theorem find?_placements_isSome (hids : (heads.map (·.id)).Nodup) (hh : h ∈ heads)
    (hp : h.pending = Pending.none) :
    ((placements c heads).find? fun p => decide (p.head = h.id)).isSome =
      (wanted c (isSole heads) h).enabled := by
  rw [Bool.eq_iff_iff, List.find?_isSome]
  have hmem : (∃ p ∈ placements c heads, decide (p.head = h.id) = true) ↔
      h.id ∈ (placements c heads).map (·.head) := by
    simp only [decide_eq_true_eq, List.mem_map]
  rw [hmem, (heads_placements_perm c heads).mem_iff]
  simp only [List.mem_map, List.mem_filter, decided]
  constructor
  · rintro ⟨a, ⟨⟨b, hb, rfl⟩, hroom⟩, heq⟩
    rw [id_desireHead] at heq
    obtain rfl := List.inj_on_of_nodup_map hids hb hh heq
    rw [takesRoom_desireHead hp] at hroom
    exact hroom
  · intro hon
    refine ⟨_, ⟨⟨h, hh, rfl⟩, ?_⟩, id_desireHead c _ h⟩
    rw [takesRoom_desireHead hp]
    exact hon

/-- A head that shall not be on keeps whatever it has, and it is put nowhere. -/
theorem desired_targeted_of_off (hids : (heads.map (·.id)).Nodup) (hh : h ∈ heads)
    (hp : h.pending = Pending.none) (hoff : (wanted c (isSole heads) h).enabled = false) :
    (targeted c heads h).desired = kept h := by
  have hplace := find?_placements_isSome (c := c) hids hh hp
  rw [hoff, Option.isSome_eq_false_iff, Option.isNone_iff_eq_none] at hplace
  rw [targeted, hplace]
  exact (desired_desireHead hp c _).trans (wanted_of_off hoff)

/-- Heads go where they went before if what is decided about them is alike. -/
theorem placements_of_alike (alike : ∀ h ∈ heads,
      Alike (desireHead c (isSole heads) (f h)) (desireHead c (isSole heads) h)) :
    placements c (heads.map f) = placements c heads := by
  rw [placements, decided, isSole_map, List.map_map, placements, decided]
  refine place_alike (orderHeads_alike ?_ c.order) c.arrange c.align
  rw [List.forall₂_map_left_iff, List.forall₂_map_right_iff, List.forall₂_same]
  exact alike

/-- Nothing that a request can change has a part in where the heads go. -/
theorem placements_map (hidle : ∀ h ∈ heads, h.pending = Pending.none)
    (same : ∀ h ∈ heads, SameDisplay (f h) h) :
    placements c (heads.map f) = placements c heads :=
  placements_of_alike fun h hh => alike_desireHead (same h hh) (hidle h hh) c _

/-- What two heads have in common of which the same becomes in the same place. -/
structure SameDecision (c : Config) (sole : Bool) (g h : Head) : Prop where
  id : g.id = h.id
  name : g.name = h.name
  description : g.description = h.description
  pending : g.pending = h.pending
  wanted : wanted c sole g = wanted c sole h

theorem SameDecision.alike {g h : Head} (same : SameDecision c sole g h)
    (hp : h.pending = Pending.none) : Alike (desireHead c sole g) (desireHead c sole h) := by
  have hq : g.pending = Pending.none := same.pending.trans hp
  have hroom : takesRoom (desireHead c sole g) = takesRoom (desireHead c sole h) := by
    rw [takesRoom_desireHead hq, takesRoom_desireHead hp, same.wanted]
  rw [desireHead_of_idle hq, desireHead_of_idle hp] at hroom ⊢
  refine ⟨same.id, same.name, same.description, hroom, ?_, ?_⟩
  · dsimp only
    rw [same.wanted]
  · dsimp only
    rw [same.wanted]

/-- The target of a head follows from what is decided about every head. -/
theorem desired_targeted_of_sameDecision (hidle : ∀ h ∈ heads, h.pending = Pending.none)
    (same : ∀ h ∈ heads, SameDecision c (isSole heads) (f h) h) {h : Head} (hh : h ∈ heads) :
    (targeted c (heads.map f) (f h)).desired = (targeted c heads h).desired := by
  have hp := hidle h hh
  have hq : (f h).pending = Pending.none := (same h hh).pending.trans hp
  have hplaces : placements c (heads.map f) = placements c heads :=
    placements_of_alike fun a ha => (same a ha).alike (hidle a ha)
  have hdecided : (desireHead c (isSole heads) (f h)).desired =
      (desireHead c (isSole heads) h).desired := by
    rw [desired_desireHead hq, desired_desireHead hp, (same h hh).wanted]
  rw [targeted, targeted, hplaces, isSole_map, (same h hh).id]
  split
  · simp only [move, pending_desireHead, hp, hq, hdecided]
    rfl
  · exact hdecided

/-- Heads for which the layout has just been computed, without an open request. -/
structure Aimed (c : Config) (heads : List Head) : Prop where
  fixed : desire c heads = heads
  distinct : (heads.map (·.id)).Nodup
  idle : ∀ h ∈ heads, h.pending = Pending.none

theorem aimed_desire (hids : (heads.map (·.id)).Nodup)
    (hidle : ∀ h ∈ heads, h.pending = Pending.none) (c : Config) : Aimed c (desire c heads) := by
  have hview : IgnoresDecision Head.id := fun _ _ _ _ => rfl
  have hstakes := ignoresDecision_stake.map_desire c heads
  refine ⟨desire_desire c heads, ?_, ?_⟩
  · rw [hview.map_desire c heads]
    exact hids
  · intro h hh
    obtain ⟨g, hg, hgh⟩ := List.mem_map.mp (hstakes ▸ List.mem_map_of_mem hh)
    exact (congrArg Prod.snd hgh).symm.trans (hidle g hg)

theorem Aimed.targeted (ha : Aimed c heads) (hh : h ∈ heads) : targeted c heads h = h := by
  have hmap : heads.map (Layout.targeted c heads) = heads.map id := by
    rw [← desire_eq_map ha.distinct, ha.fixed, List.map_id]
  exact List.map_inj_left.mp hmap h hh

theorem targeted_of_ignoresDecision {α : Type} {g : Head → α} (hg : IgnoresDecision g)
    (c : Config) (heads : List Head) (h : Head) : g (targeted c heads h) = g h := by
  unfold targeted
  split
  · rw [hg.move, hg.desireHead]
  · rw [hg.desireHead]

/-- When the heads change in a way that a request can ask for, a head that shall be on keeps its
target, and a head that shall not be on stays as it has become. -/
theorem Aimed.desired_targeted (ha : Aimed c heads) (same : ∀ h ∈ heads, SameDisplay (f h) h)
    (hh : h ∈ heads) :
    (Layout.targeted c (heads.map f) (f h)).desired =
      if h.desired.enabled then h.desired else kept (f h) := by
  have hp := ha.idle h hh
  have hq : (f h).pending = Pending.none := (same h hh).pending.trans hp
  have hwanted := wanted_sameDisplay (same h hh) c (isSole heads)
  have hplace := find?_placements_isSome (c := c) ha.distinct hh hp
  have hself := congrArg Head.desired (ha.targeted hh)
  rw [Layout.targeted] at hself
  rw [Layout.targeted, placements_map ha.idle same, (same h hh).id, isSole_map]
  have hmoved {a : Head} (ha : a.pending = Pending.none) (p : Placement) :
      (move p (desireHead c (isSole heads) a)).desired =
        { wanted c (isSole heads) a with x := p.x, y := p.y } := by
    rw [← desired_desireHead ha]
    simp only [move, pending_desireHead, ha]
    rfl
  cases hfind : (placements c heads).find? fun p => decide (p.head = h.id) with
  | none =>
      have hoff : (wanted c (isSole heads) h).enabled = false := by
        rw [← hplace, hfind]
        rfl
      simp only [hfind, desired_desireHead hp] at hself
      simp only [desired_desireHead hq, hwanted, ← hself, hoff]
      rfl
  | some p =>
      have hon : (wanted c (isSole heads) h).enabled = true := by
        rw [← hplace, hfind]
        rfl
      simp only [hfind, hmoved hp] at hself
      simp only [hmoved hq, hwanted, ← hself, hon]
      rfl

end OutputArranger.Layout
