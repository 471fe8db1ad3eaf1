import OutputArranger.Layout.Desire
import OutputArranger.Proofs.Outputs

/-!
# The layout is computed from scratch

What every head should become is computed anew on every pass. It leaves alone whatever was reported
about the heads, and what it decided the last time has no part in it, so that computing the layout
of heads for which it has just been computed changes nothing.
-/

namespace OutputArranger.Layout

/-- What is decided about every head, positions apart. -/
def decided (c : Config) (heads : List Head) : List Head :=
  heads.map (desireHead c (isSole heads))

/-- Where the heads go about which it was decided that they take room. -/
def placements (c : Config) (heads : List Head) : List Placement :=
  place c.arrange c.align (orderHeads c.order (decided c heads))

theorem desire_eq (c : Config) (heads : List Head) :
    desire c heads =
      (placements c heads).foldl (fun hs p => updateFirst (·.id = p.head) (move p) hs)
        (decided c heads) := rfl

/-- A view of heads that does not show what a pass has decided about them. -/
def IgnoresDecision {α : Type} (g : Head → α) : Prop :=
  ∀ (h : Head) (desired : Desired) (fastest warned : Bool),
    g { h with desired := desired, wantsFastest := fastest, warnedNoMode := warned } = g h

namespace IgnoresDecision

variable {α : Type} {g : Head → α}

theorem desireHead (hg : IgnoresDecision g) (c : Config) (sole : Bool) (h : Head) :
    g (Layout.desireHead c sole h) = g h := by
  unfold Layout.desireHead
  split
  · rfl
  · exact hg h _ _ _

theorem move (hg : IgnoresDecision g) (p : Placement) (h : Head) :
    g (Layout.move p h) = g h := by
  unfold Layout.move
  split
  · rfl
  · exact hg h _ h.wantsFastest h.warnedNoMode

/-- What does not show a decision about one head does not show that about all of them. -/
theorem map_desire (hg : IgnoresDecision g) (c : Config) (heads : List Head) :
    (desire c heads).map g = heads.map g := by
  rw [desire_eq, map_foldl_updateFirst g fun p h _ => hg.move p h, decided, List.map_map]
  exact List.map_congr_left fun h _ => hg.desireHead c _ h

end IgnoresDecision

theorem ignoresDecision_stake : IgnoresDecision Head.stake := fun _ _ _ _ => rfl

@[simp] theorem id_desireHead (c : Config) (sole : Bool) (h : Head) :
    (desireHead c sole h).id = h.id :=
  congrArg Prod.fst (ignoresDecision_stake.desireHead c sole h)

@[simp] theorem id_move (p : Placement) (h : Head) : (move p h).id = h.id :=
  congrArg Prod.fst (ignoresDecision_stake.move p h)

@[simp] theorem pending_desireHead (c : Config) (sole : Bool) (h : Head) :
    (desireHead c sole h).pending = h.pending :=
  congrArg Prod.snd (ignoresDecision_stake.desireHead c sole h)

/-- A decision is made anew, wherever the head was put before. -/
theorem desireHead_move (c : Config) (sole : Bool) (p : Placement) (h : Head) :
    desireHead c sole (move p h) = desireHead c sole h := by
  unfold move
  split
  · rfl
  · rename_i hp
    simp only [desireHead, hp, if_false, Bool.false_eq_true]
    rfl

theorem desireHead_desireHead (c : Config) (sole : Bool) (h : Head) :
    desireHead c sole (desireHead c sole h) = desireHead c sole h := by
  by_cases hp : h.pending.any = true
  · simp only [desireHead, hp, if_true]
  · have hwarned : (h.warnedNoMode || lacksMode c sole h || lacksMode c sole h) =
        (h.warnedNoMode || lacksMode c sole h) := by
      rw [Bool.or_assoc, Bool.or_self]
    simp only [desireHead, hp, if_false, Bool.false_eq_true]
    exact congrArg (fun w => { h with
      desired := wanted c sole h
      wantsFastest := selectedByAny c.fastest h
      warnedNoMode := w }) hwarned

theorem isSole_congr {α : Type} {g : Head → α} {heads others : List Head}
    (h : heads.map g = others.map g) : isSole heads = isSole others := by
  have hlength := congrArg List.length h
  rw [List.length_map, List.length_map] at hlength
  rw [isSole, hlength, isSole]

theorem isSole_desire (c : Config) (heads : List Head) :
    isSole (desire c heads) = isSole heads :=
  isSole_congr (ignoresDecision_stake.map_desire c heads)

theorem decided_desire (c : Config) (heads : List Head) :
    decided c (desire c heads) = decided c heads := by
  rw [decided, isSole_desire, desire_eq,
    map_foldl_updateFirst _ fun p h _ => desireHead_move c _ p h, decided, List.map_map]
  exact List.map_congr_left fun h _ => desireHead_desireHead c _ h

/-- Computing the layout a second time changes nothing. -/
theorem desire_desire (c : Config) (heads : List Head) :
    desire c (desire c heads) = desire c heads := by
  rw [desire_eq, placements, decided_desire]
  rfl

end OutputArranger.Layout
