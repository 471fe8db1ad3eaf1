import Mathlib.Algebra.Order.BigOperators.Group.List
import Mathlib.Algebra.Ring.Int.Defs
import Mathlib.Data.List.Induction
import Mathlib.Data.List.Pairwise
import OutputArranger.Proofs.Layout.ModeChoice
import OutputArranger.Proofs.Layout.Targets

/-!
# The layout has no gaps

The heads that shall be on stand one after another from the origin, each beginning where the one
before it ends, and across the arrangement they lie within the largest of them. A column is a row
with the axes exchanged.
-/

namespace OutputArranger

namespace Desired

/-- The same place and size with the axes exchanged. -/
def flipped (d : Desired) : Desired :=
  { d with x := d.y, y := d.x, width := d.height, height := d.width }

@[simp] theorem x_flipped (d : Desired) : d.flipped.x = d.y := rfl

@[simp] theorem y_flipped (d : Desired) : d.flipped.y = d.x := rfl

@[simp] theorem width_flipped (d : Desired) : d.flipped.width = d.height := rfl

@[simp] theorem height_flipped (d : Desired) : d.flipped.height = d.width := rfl

/-- Two rectangles without a common point inside. -/
def Apart (d e : Desired) : Prop :=
  d.x + d.width ≤ e.x ∨ e.x + e.width ≤ d.x ∨ d.y + d.height ≤ e.y ∨ e.y + e.height ≤ d.y

theorem Apart.symm {d e : Desired} (h : Apart d e) : Apart e d := by
  unfold Apart at h ⊢
  omega

theorem apart_flipped {d e : Desired} : Apart d.flipped e.flipped ↔ Apart d e := by
  simp only [Apart, x_flipped, y_flipped, width_flipped, height_flipped]
  omega

end Desired

/-- The alignment that takes the place of another one when the axes are exchanged. -/
def Align.flipped : Align → Align
  | .top => .left
  | .middle => .middle
  | .bottom => .right
  | .left => .top
  | .right => .bottom

namespace Arrange

/-- How a rectangle looks when the arrangement is seen as a row. -/
def asRow : Arrange → Desired → Desired
  | .row, d => d
  | .column, d => d.flipped

/-- The alignment when the arrangement is seen as a row. -/
def alignAsRow : Arrange → Align → Align
  | .row, align => align
  | .column, align => align.flipped

theorem apart_asRow {arrange : Arrange} {d e : Desired} :
    (arrange.asRow d).Apart (arrange.asRow e) ↔ d.Apart e := by
  cases arrange with
  | row => exact Iff.rfl
  | column => exact Desired.apart_flipped

end Arrange

namespace Layout

/-! ## The largest -/

theorem le_foldl_max (a : Int) (rest : List Int) :
    a ≤ rest.foldl max a ∧ ∀ b ∈ rest, b ≤ rest.foldl max a := by
  induction rest generalizing a with
  | nil => simp
  | cons b rest ih =>
      obtain ⟨hfirst, hothers⟩ := ih (max a b)
      simp only [List.foldl_cons, List.forall_mem_cons]
      exact ⟨by omega, by omega, hothers⟩

theorem le_greatest {a : Int} {sizes : List Int} (ha : a ∈ sizes) : a ≤ greatest sizes := by
  cases sizes with
  | nil => simp at ha
  | cons b rest =>
      obtain ⟨hfirst, hothers⟩ := le_foldl_max b rest
      rcases List.mem_cons.mp ha with rfl | ha
      · exact hfirst
      · exact hothers a ha

theorem foldl_max_mem (a : Int) (rest : List Int) : rest.foldl max a ∈ a :: rest := by
  induction rest generalizing a with
  | nil => simp
  | cons b rest ih =>
      rw [List.foldl_cons]
      rcases List.mem_cons.mp (ih (max a b)) with hmax | hmem
      · rw [hmax]
        have hmax : max a b = a ∨ max a b = b := by omega
        rcases hmax with h | h <;> simp [h]
      · simp [hmem]

theorem greatest_mem {sizes : List Int} (h : sizes ≠ []) : greatest sizes ∈ sizes := by
  cases sizes with
  | nil => exact absurd rfl h
  | cons a rest => exact foldl_max_mem a rest

/-! ## Sides -/

/-- Sides are numbers of 32 bits that are not negative. -/
def IsSide (size : Int) : Prop := 0 ≤ size ∧ size ≤ maxInt32

instance (size : Int) : Decidable (IsSide size) :=
  inferInstanceAs (Decidable (0 ≤ size ∧ size ≤ maxInt32))

theorem isSide_zero : IsSide 0 := by decide

theorem isSide_greatest {sizes : List Int} (h : ∀ a ∈ sizes, IsSide a) :
    IsSide (greatest sizes) := by
  cases sizes with
  | nil => exact isSide_zero
  | cons a rest => exact h _ (greatest_mem (List.cons_ne_nil a rest))

theorem isSide_scaledSide {pixels raw : Int} (hpixels : IsSide pixels) (hraw : 0 < raw) :
    IsSide (scaledSide pixels raw) := by
  obtain ⟨hpixels, -⟩ := hpixels
  have hquotient : 0 ≤ (512 * pixels + raw).tdiv (2 * raw) :=
    Int.tdiv_nonneg (by omega) (by omega)
  unfold IsSide scaledSide clampInt32 minInt32 maxInt32
  omega

theorem isSide_dimensions {m : Mode} (hm : IsSide m.width ∧ IsSide m.height) (t : Transform)
    (s : Scale) : IsSide (dimensions m t s).1 ∧ IsSide (dimensions m t s).2 := by
  unfold dimensions
  split
  · exact hm
  · rename_i hraw
    have hraw : 0 < s.raw := by omega
    split
    · exact ⟨isSide_scaledSide hm.2 hraw, isSide_scaledSide hm.1 hraw⟩
    · exact ⟨isSide_scaledSide hm.1 hraw, isSide_scaledSide hm.2 hraw⟩

theorem isSide_wanted {c : Config} {sole : Bool} {h : Head}
    (hmodes : ∀ m ∈ h.modes, IsSide m.width ∧ IsSide m.height) :
    IsSide (wanted c sole h).width ∧ IsSide (wanted c sole h).height := by
  unfold wanted
  split
  · exact ⟨isSide_zero, isSide_zero⟩
  · cases bestMode c h with
    | none => exact ⟨isSide_zero, isSide_zero⟩
    | some best =>
        cases hmode : h.mode? best.id with
        | none => simp [hmode, isSide_zero]
        | some m =>
            simp only [hmode]
            exact isSide_dimensions (hmodes m (List.mem_of_find?_eq_some hmode)) _ _

/-! ## Rows -/

/-- Rectangles side by side from the origin on: each begins where the ones before it end. -/
def Gapless (shown : List Desired) : Prop :=
  ∀ before d after, shown = before ++ d :: after → d.x = (before.map (·.width)).sum

/-- The height of the highest rectangle. -/
def tallest (shown : List Desired) : Int := greatest (shown.map (·.height))

/-- Where a rectangle begins in a row whose highest one has the given height. -/
def level (align : Align) (room height : Int) : Int :=
  match align with
  | .bottom => room - height
  | .middle => (room - height) / 2
  | _ => 0

/-- A row from the origin on, as high as its highest rectangle. -/
structure InRow (align : Align) (shown : List Desired) : Prop where
  next : Gapless shown
  level : ∀ d ∈ shown, d.y = level align (tallest shown) d.height
  within : ∀ d ∈ shown, 0 ≤ d.y ∧ d.y ≤ tallest shown - d.height

section Rows

variable {align : Align} {shown : List Desired}

theorem sum_sizes_nonneg {α : Type} {size : α → Int} {l : List α} (hsizes : ∀ a ∈ l, 0 ≤ size a) :
    0 ≤ (l.map size).sum :=
  List.sum_nonneg (List.forall_mem_map.mpr hsizes)

theorem Gapless.nonneg (h : Gapless shown) (hsizes : ∀ d ∈ shown, 0 ≤ d.width) :
    ∀ d ∈ shown, 0 ≤ d.x := by
  intro d hd
  obtain ⟨before, after, rfl⟩ := List.append_of_mem hd
  rw [h before d after rfl]
  exact sum_sizes_nonneg fun e he => hsizes e (List.mem_append_left _ he)

/-- Of two rectangles in a row, the later one begins no earlier than the other one ends. -/
theorem Gapless.pairwise_apart (h : Gapless shown) (hsizes : ∀ d ∈ shown, 0 ≤ d.width) :
    shown.Pairwise Desired.Apart := by
  -- from the end: only the last rectangle is known to begin where all others have ended
  induction shown using List.reverseRecOn with
  | nil => exact List.Pairwise.nil
  | append_singleton shown e ih =>
      have hprefix : Gapless shown := by
        rintro before d after rfl
        exact h before d (after ++ [e]) (by simp)
      rw [List.pairwise_append]
      refine ⟨ih hprefix fun d hd => hsizes d (List.mem_append_left _ hd), by simp, ?_⟩
      intro d hd e' he'
      obtain rfl := List.mem_singleton.mp he'
      obtain ⟨before, after, rfl⟩ := List.append_of_mem hd
      have hd := hprefix before d after rfl
      have he := h _ e' [] rfl
      have hbetween : 0 ≤ (after.map (·.width)).sum :=
        sum_sizes_nonneg fun g hg => hsizes g (by simp [hg])
      simp only [List.map_append, List.map_cons, List.sum_append, List.sum_cons] at he
      exact Or.inl (by omega)

theorem Gapless.exists_at_origin (h : Gapless shown) (hne : shown ≠ []) : ∃ d ∈ shown, d.x = 0 := by
  cases shown with
  | nil => exact absurd rfl hne
  | cons d rest => exact ⟨d, by simp, h [] d rest rfl⟩

/-- A highest rectangle begins at the edge, however the row is aligned. -/
theorem InRow.exists_at_edge (h : InRow align shown) (hne : shown ≠ []) :
    ∃ d ∈ shown, d.y = 0 := by
  have hmem : tallest shown ∈ shown.map (·.height) := greatest_mem (by simpa using hne)
  obtain ⟨d, hd, hheight⟩ := List.mem_map.mp hmem
  have hwithin := h.within d hd
  refine ⟨d, hd, ?_⟩
  omega

theorem level_within {room height : Int} (h : height ≤ room) :
    0 ≤ level align room height ∧ level align room height ≤ room - height := by
  unfold level
  split <;> omega

/-- Rounding toward zero and rounding down are the same for the room that a head leaves. -/
theorem offset_row {room height : Int} (hheight : 0 ≤ height) (hle : height ≤ room)
    (hroom : room ≤ maxInt32) : offset .row align room height = level align room height := by
  have hleft : wrapInt32 (room - height) = room - height :=
    wrapInt32_of_fits (by unfold minInt32; omega) (by omega)
  have hdiv : (room - height).tdiv 2 = (room - height) / 2 :=
    Int.tdiv_eq_ediv_of_nonneg (by omega)
  cases align <;> simp only [offset, level, hleft, hdiv]

end Rows

/-! ## Places -/

section Places

variable {arrange : Arrange} {align : Align} {room : Int} {placed : List Head}

theorem offset_flipped (room size : Int) :
    offset .row align.flipped room size = offset .column align room size := by
  cases align <;> rfl

/-- A head is placed after the ones before it and aligned with the largest one. Whatever the sums
on the way do, it begins where the exact sum wraps around to. -/
theorem exists_mem_placeFrom (arrange : Arrange) (align : Align) (room start : Int)
    (hstart : wrapInt32 start = start) (before : List Head) (h : Head) (after : List Head) :
    ∃ p ∈ placeFrom arrange align room start (before ++ h :: after), p.head = h.id ∧
      ∀ d : Desired, arrange.asRow { d with x := p.x, y := p.y } =
        { arrange.asRow d with
          x := wrapInt32 (start + (before.map fun g => (arrange.asRow g.desired).width).sum)
          y := offset .row (arrange.alignAsRow align) room (arrange.asRow h.desired).height } := by
  induction before generalizing start with
  | nil =>
      cases arrange with
      | row =>
          refine ⟨_, List.mem_cons_self, rfl, fun d => ?_⟩
          simp [Arrange.asRow, Arrange.alignAsRow, hstart]
      | column =>
          refine ⟨_, List.mem_cons_self, rfl, fun d => ?_⟩
          simp [Arrange.asRow, Arrange.alignAsRow, offset_flipped, Desired.flipped, hstart]
  | cons g before ih =>
      cases arrange with
      | row =>
          obtain ⟨p, hp, hhead, hview⟩ := ih _ (wrapInt32_wrapInt32 (start + g.desired.width))
          refine ⟨p, List.mem_cons_of_mem _ hp, hhead, fun d => (hview d).trans ?_⟩
          simp only [List.map_cons, List.sum_cons, Arrange.asRow, wrapInt32_wrapInt32_add,
            Int.add_assoc]
      | column =>
          obtain ⟨p, hp, hhead, hview⟩ := ih _ (wrapInt32_wrapInt32 (start + g.desired.height))
          refine ⟨p, List.mem_cons_of_mem _ hp, hhead, fun d => (hview d).trans ?_⟩
          simp only [List.map_cons, List.sum_cons, Arrange.asRow, Desired.width_flipped,
            wrapInt32_wrapInt32_add, Int.add_assoc]

/-- What becomes of a head of which all but its place has been decided. -/
def put (places : List Placement) (h : Head) : Head :=
  match places.find? fun p => decide (p.head = h.id) with
  | some p => move p h
  | none => h

theorem view_put {α : Type} {g : Desired → α}
    (hg : ∀ (d : Desired) (x y : Int), g { d with x, y } = g d) (places : List Placement)
    (h : Head) : g (put places h).desired = g h.desired := by
  unfold put move
  split
  · split
    · rfl
    · exact hg _ _ _
  · rfl

theorem size_asRow_put (places : List Placement) (h : Head) :
    (arrange.asRow (put places h).desired).width = (arrange.asRow h.desired).width ∧
      (arrange.asRow (put places h).desired).height = (arrange.asRow h.desired).height := by
  have hwidth := view_put (g := Desired.width) (fun _ _ _ => rfl) places h
  have hheight := view_put (g := Desired.height) (fun _ _ _ => rfl) places h
  cases arrange with
  | row => exact ⟨hwidth, hheight⟩
  | column => exact ⟨hheight, hwidth⟩

theorem asRow_put {before after : List Head} {h : Head}
    (hids : ((before ++ h :: after).map (·.id)).Nodup) (hp : h.pending = Pending.none) :
    arrange.asRow (put (placeFrom arrange align room 0 (before ++ h :: after)) h).desired =
      { arrange.asRow h.desired with
        x := wrapInt32 (before.map fun g => (arrange.asRow g.desired).width).sum
        y := offset .row (arrange.alignAsRow align) room (arrange.asRow h.desired).height } := by
  obtain ⟨p, hmem, hhead, hview⟩ :=
    exists_mem_placeFrom arrange align room 0 rfl before h after
  have hkeys : ((placeFrom arrange align room 0 (before ++ h :: after)).map (·.head)).Nodup :=
    (map_head_placeFrom arrange align room 0 _).symm ▸ hids
  have hfind := find?_eq_some_of_mem hkeys hmem
  rw [hhead] at hfind
  have hany : h.pending.any = false := by
    rw [hp]
    rfl
  simp only [put, hfind, move, hany, Bool.false_eq_true, if_false]
  rw [hview, Int.zero_add]

theorem place_eq (arrange : Arrange) (align : Align) (ordered : List Head) :
    place arrange align ordered =
      placeFrom arrange align
        (greatest ((ordered.filter takesRoom).map fun h => (arrange.asRow h.desired).height)) 0
        (ordered.filter takesRoom) := by
  cases arrange <;> rfl

/-- Heads that are placed one after another stand in a row that is not too long for 32 bits. -/
theorem inRow_put (hids : (placed.map (·.id)).Nodup)
    (hidle : ∀ h ∈ placed, h.pending = Pending.none)
    (hsizes : ∀ h ∈ placed, IsSide (arrange.asRow h.desired).width ∧
      IsSide (arrange.asRow h.desired).height)
    (hlength : (placed.map fun h => (arrange.asRow h.desired).width).sum ≤ maxInt32)
    (hroom : room = greatest (placed.map fun h => (arrange.asRow h.desired).height)) :
    InRow (arrange.alignAsRow align)
      (placed.map fun h =>
        arrange.asRow (put (placeFrom arrange align room 0 placed) h).desired) := by
  have htallest : tallest (placed.map fun h =>
      arrange.asRow (put (placeFrom arrange align room 0 placed) h).desired) = room := by
    simp only [tallest, hroom, List.map_map, Function.comp_def, (size_asRow_put _ _).2]
  have hfits : room ≤ maxInt32 := by
    have hside := isSide_greatest (List.forall_mem_map.mpr fun h hh => (hsizes h hh).2)
    exact hroom ▸ hside.2
  have hlevel : ∀ h ∈ placed,
      (arrange.asRow (put (placeFrom arrange align room 0 placed) h).desired).y =
        level (arrange.alignAsRow align) room (arrange.asRow h.desired).height ∧
      (arrange.asRow h.desired).height ≤ room := by
    intro h hh
    have hle : (arrange.asRow h.desired).height ≤ room :=
      hroom ▸ le_greatest (List.mem_map.mpr ⟨h, hh, rfl⟩)
    obtain ⟨before, after, rfl⟩ := List.append_of_mem hh
    rw [asRow_put hids (hidle h hh)]
    exact ⟨offset_row (hsizes h hh).2.1 hle hfits, hle⟩
  constructor
  · intro before d after hsplit
    obtain ⟨front, rest, rfl, rfl, hrest⟩ := List.map_eq_append_iff.mp hsplit
    obtain ⟨h, back, rfl, rfl, -⟩ := List.map_eq_cons_iff.mp hrest
    have hbefore : wrapInt32 (front.map fun g => (arrange.asRow g.desired).width).sum =
        (front.map fun g => (arrange.asRow g.desired).width).sum := by
      have hfront : 0 ≤ (front.map fun g => (arrange.asRow g.desired).width).sum :=
        sum_sizes_nonneg fun g hg => (hsizes g (List.mem_append_left _ hg)).1.1
      have hback : 0 ≤ ((h :: back).map fun g => (arrange.asRow g.desired).width).sum :=
        sum_sizes_nonneg fun g hg => (hsizes g (List.mem_append_right _ hg)).1.1
      rw [List.map_append, List.sum_append] at hlength
      exact wrapInt32_of_fits (by unfold minInt32; omega) (by omega)
    rw [asRow_put hids (hidle h (by simp))]
    simp only [List.map_map, Function.comp_def, (size_asRow_put _ _).1, hbefore]
  · intro d hd
    obtain ⟨h, hh, rfl⟩ := List.mem_map.mp hd
    rw [htallest, (size_asRow_put _ _).2]
    exact (hlevel h hh).1
  · intro d hd
    obtain ⟨h, hh, rfl⟩ := List.mem_map.mp hd
    obtain ⟨hy, hle⟩ := hlevel h hh
    rw [htallest, (size_asRow_put _ _).2, hy]
    exact level_within hle

end Places

variable {c : Config} {heads : List Head}

/-! ## All heads -/

/-- The heads that shall be on, in their order. -/
def shownHeads (c : Config) (heads : List Head) : List Head :=
  (orderHeads c.order (desire c heads)).filter (·.desired.enabled)

theorem orderHeads_map {f : Head → Head}
    (hf : ∀ h pattern, (f h).isSelectedBy pattern = h.isSelectedBy pattern)
    (patterns : List String) (heads : List Head) :
    orderHeads patterns (heads.map f) = (orderHeads patterns heads).map f := by
  induction patterns generalizing heads with
  | nil => rfl
  | cons pattern rest ih =>
      simp only [orderHeads, List.filter_map, ih, List.map_append, Function.comp_def, hf]

theorem targeted_eq_put (c : Config) (heads : List Head) (h : Head) :
    targeted c heads h = put (placements c heads) (desireHead c (isSole heads) h) := by
  rw [put, id_desireHead]
  rfl

theorem shownHeads_perm (c : Config) (heads : List Head) :
    (shownHeads c heads).Perm ((desire c heads).filter (·.desired.enabled)) :=
  (orderHeads_perm c.order _).filter _

theorem shownHeads_eq (distinct : (heads.map (·.id)).Nodup)
    (idle : ∀ h ∈ heads, h.pending = Pending.none) (c : Config) :
    shownHeads c heads =
      ((orderHeads c.order (decided c heads)).filter takesRoom).map
        (put (placements c heads)) := by
  have hput : desire c heads = (decided c heads).map (put (placements c heads)) := by
    rw [desire_eq_map distinct, decided, List.map_map]
    exact List.map_congr_left fun h _ => targeted_eq_put c heads h
  have hselected (h : Head) (pattern : String) :
      (put (placements c heads) h).isSelectedBy pattern = h.isSelectedBy pattern := by
    unfold put move
    split
    · split <;> rfl
    · rfl
  rw [shownHeads, hput, orderHeads_map hselected, List.filter_map]
  congr 1
  apply List.filter_congr
  intro g hg
  obtain ⟨h, hh, rfl⟩ := List.mem_map.mp ((orderHeads_perm c.order _).mem_iff.mp hg)
  have hp := idle h hh
  rw [Function.comp_apply, view_put (g := Desired.enabled) (fun _ _ _ => rfl),
    takesRoom_desireHead hp, desired_desireHead hp]

/-- How far the heads that shall be on reach along the arrangement. -/
def extent (c : Config) (heads : List Head) : Int :=
  ((shownHeads c heads).map fun h => (c.arrange.asRow h.desired).width).sum

theorem isSide_asRow {arrange : Arrange} {d : Desired} (h : IsSide d.width ∧ IsSide d.height) :
    IsSide (arrange.asRow d).width ∧ IsSide (arrange.asRow d).height := by
  cases arrange with
  | row => exact h
  | column => exact h.symm

theorem inRow_shownHeads (distinct : (heads.map (·.id)).Nodup)
    (idle : ∀ h ∈ heads, h.pending = Pending.none)
    (sizes : ∀ h ∈ heads, ∀ m ∈ h.modes, IsSide m.width ∧ IsSide m.height)
    (fits : extent c heads ≤ maxInt32) :
    InRow (c.arrange.alignAsRow c.align)
      ((shownHeads c heads).map fun h => c.arrange.asRow h.desired) := by
  have hperm := (orderHeads_perm c.order (decided c heads)).filter takesRoom
  have hids : (((orderHeads c.order (decided c heads)).filter takesRoom).map (·.id)).Nodup := by
    rw [(hperm.map _).nodup_iff]
    refine List.Nodup.sublist (List.filter_sublist.map _) ?_
    rw [ids_decided]
    exact distinct
  have hplaced : ∀ g ∈ (orderHeads c.order (decided c heads)).filter takesRoom,
      ∃ h ∈ heads, desireHead c (isSole heads) h = g := fun g hg =>
    List.mem_map.mp (List.mem_filter.mp (hperm.mem_iff.mp hg)).1
  have hidle : ∀ g ∈ (orderHeads c.order (decided c heads)).filter takesRoom,
      g.pending = Pending.none := by
    intro g hg
    obtain ⟨h, hh, rfl⟩ := hplaced g hg
    rw [pending_desireHead]
    exact idle h hh
  have hsides : ∀ g ∈ (orderHeads c.order (decided c heads)).filter takesRoom,
      IsSide (c.arrange.asRow g.desired).width ∧ IsSide (c.arrange.asRow g.desired).height := by
    intro g hg
    obtain ⟨h, hh, rfl⟩ := hplaced g hg
    rw [desired_desireHead (idle h hh)]
    exact isSide_asRow (isSide_wanted (sizes h hh))
  simp only [extent, shownHeads_eq distinct idle, List.map_map, Function.comp_def,
    (size_asRow_put _ _).1] at fits
  rw [shownHeads_eq distinct idle, List.map_map, placements, place_eq]
  exact inRow_put hids hidle hsides fits rfl

theorem isSide_desire (distinct : (heads.map (·.id)).Nodup)
    (idle : ∀ h ∈ heads, h.pending = Pending.none)
    (sizes : ∀ h ∈ heads, ∀ m ∈ h.modes, IsSide m.width ∧ IsSide m.height) {g : Head}
    (hg : g ∈ desire c heads) : IsSide g.desired.width ∧ IsSide g.desired.height := by
  rw [desire_eq_map distinct] at hg
  obtain ⟨h, hh, rfl⟩ := List.mem_map.mp hg
  rw [view_targeted (g := Desired.width) (fun _ _ _ => rfl) (idle h hh),
    view_targeted (g := Desired.height) (fun _ _ _ => rfl) (idle h hh)]
  exact isSide_wanted (sizes h hh)

/-- The heads that shall be on are laid out without gaps and without overlap from the origin on,
and the others take no room and stay where they are. No sum may leave the range of 32 bits, and so
the arrangement must end within it. -/
theorem desire_tiles (distinct : (heads.map (·.id)).Nodup)
    (idle : ∀ h ∈ heads, h.pending = Pending.none)
    (sizes : ∀ h ∈ heads, ∀ m ∈ h.modes, IsSide m.width ∧ IsSide m.height)
    (fits : extent c heads ≤ maxInt32) :
    InRow (c.arrange.alignAsRow c.align)
        ((shownHeads c heads).map fun h => c.arrange.asRow h.desired) ∧
      (∀ g ∈ desire c heads, ∀ h ∈ desire c heads, g.desired.enabled = true →
        h.desired.enabled = true → g.id ≠ h.id → g.desired.Apart h.desired) ∧
      (∀ h ∈ shownHeads c heads, 0 ≤ h.desired.x ∧ 0 ≤ h.desired.y) ∧
      (shownHeads c heads ≠ [] →
        (∃ h ∈ shownHeads c heads, h.desired.x = 0) ∧
          ∃ h ∈ shownHeads c heads, h.desired.y = 0) ∧
      ∀ g ∈ heads, ∀ h ∈ desire c heads, h.id = g.id → h.desired.enabled = false →
        h.desired.x = g.x ∧ h.desired.y = g.y ∧ h.desired.width = 0 ∧ h.desired.height = 0 := by
  have hrow := inRow_shownHeads distinct idle sizes fits
  have hmem (h : Head) :
      h ∈ shownHeads c heads ↔ h ∈ desire c heads ∧ h.desired.enabled = true := by
    rw [(shownHeads_perm c heads).mem_iff, List.mem_filter]
  have hwidths : ∀ d ∈ (shownHeads c heads).map fun h => c.arrange.asRow h.desired,
      0 ≤ d.width := by
    intro d hd
    obtain ⟨h, hh, rfl⟩ := List.mem_map.mp hd
    exact (isSide_asRow (isSide_desire distinct idle sizes ((hmem h).mp hh).1)).1.1
  refine ⟨hrow, ?_, ?_, ?_, ?_⟩
  · intro g hg h hh hgon hhon hne
    have hpairs : (shownHeads c heads).Pairwise fun g h => g.desired.Apart h.desired :=
      (List.pairwise_map.mp (hrow.next.pairwise_apart hwidths)).imp Arrange.apart_asRow.mp
    have hsymm : Std.Symm fun g h : Head => g.desired.Apart h.desired := ⟨fun _ _ h => h.symm⟩
    exact hpairs.forall ((hmem g).mpr ⟨hg, hgon⟩) ((hmem h).mpr ⟨hh, hhon⟩)
      fun heq => hne (congrArg Head.id heq)
  · intro h hh
    have hx := hrow.next.nonneg hwidths _ (List.mem_map_of_mem hh)
    have hy := (hrow.within _ (List.mem_map_of_mem hh)).1
    cases harrange : c.arrange with
    | row =>
        rw [harrange] at hx hy
        exact ⟨hx, hy⟩
    | column =>
        rw [harrange] at hx hy
        exact ⟨hy, hx⟩
  · intro hne
    have hne : (shownHeads c heads).map (fun h => c.arrange.asRow h.desired) ≠ [] := by
      simpa using hne
    have hx := hrow.next.exists_at_origin hne
    have hy := hrow.exists_at_edge hne
    simp only [List.mem_map, exists_exists_and_eq_and] at hx hy
    cases harrange : c.arrange with
    | row =>
        rw [harrange] at hx hy
        exact ⟨hx, hy⟩
    | column =>
        rw [harrange] at hx hy
        exact ⟨hy, hx⟩
  · intro g hg h hh hid hoff
    have hkept := (aimed_desire distinct idle c).kept hh hoff
    rw [desire_eq_map distinct] at hh
    obtain ⟨g', hg', rfl⟩ := List.mem_map.mp hh
    rw [targeted_of_ignoresDecision (g := Head.id) fun _ _ _ _ => rfl] at hid
    obtain rfl := List.inj_on_of_nodup_map distinct hg' hg hid
    rw [hkept, kept, Head.desired_resetDesired,
      targeted_of_ignoresDecision (g := Head.x) (fun _ _ _ _ => rfl),
      targeted_of_ignoresDecision (g := Head.y) (fun _ _ _ _ => rfl)]
    exact ⟨rfl, rfl, rfl, rfl⟩

/-- A head whose only mode has the given size, reported at a position. -/
def headOf (id : HeadId) (x width height : Int) : Head :=
  { Head.blank id with x := x, modes := [⟨⟨id.value⟩, width, height, 60000, true⟩] }

/-- Three displays, the lid of the second one being closed. -/
def withClosedLid : List Head :=
  [headOf ⟨1⟩ 7 1920 1080, { headOf ⟨2⟩ 300 1366 768 with lidClosed := true },
    headOf ⟨3⟩ 9 1280 1025]

theorem desire_tiles_withClosedLid :
    let c : Config := { Config.default with arrange := .column, align := .middle }
    (withClosedLid.map (·.id)).Nodup ∧ (∀ h ∈ withClosedLid, h.pending = Pending.none) ∧
      (∀ h ∈ withClosedLid, ∀ m ∈ h.modes, IsSide m.width ∧ IsSide m.height) ∧
      extent c withClosedLid ≤ maxInt32 ∧
      (desire c withClosedLid).map (fun h => (h.desired.enabled, h.desired.x, h.desired.y)) =
        [(true, 0, 0), (false, 300, 0), (true, 320, 1080)] ∧
      InRow .middle ((shownHeads c withClosedLid).map fun h => h.desired.flipped) := by
  have distinct : (withClosedLid.map (·.id)).Nodup := by decide
  have idle : ∀ h ∈ withClosedLid, h.pending = Pending.none := by decide
  have sizes : ∀ h ∈ withClosedLid, ∀ m ∈ h.modes, IsSide m.width ∧ IsSide m.height := by decide
  intro c
  have fits : extent c withClosedLid ≤ maxInt32 := by decide
  exact ⟨distinct, idle, sizes, fits, by decide,
    (desire_tiles (c := c) distinct idle sizes fits).1⟩

end Layout

end OutputArranger
