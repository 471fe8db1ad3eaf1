import Mathlib.Data.List.Forall2
import OutputArranger.Proofs.Session.Pass

/-!
# What an earlier pass decided does not matter

A pass that computes the layout decides about the heads that are not part of an open request, and
changes nothing else. It starts from what was reported: two sessions that differ only in what was
decided about such heads before are the same afterwards, and a second pass changes nothing.
-/

namespace OutputArranger

theorem forall₂_updateFirst {α β : Type} {R : α → β → Prop} {p : β → Bool} {f : β → β}
    (hf : ∀ a b, R a b → R a (f b)) {xs : List α} {ys : List β} (h : List.Forall₂ R xs ys) :
    List.Forall₂ R xs (updateFirst p f ys) := by
  induction h with
  | nil => exact .nil
  | cons hab hrest ih =>
      unfold updateFirst
      split
      · exact .cons (hf _ _ hab) hrest
      · exact .cons hab ih

namespace Layout

variable {c : Config} {sole : Bool} {heads others : List Head} {g h : Head}

/-- What a pass can make of a head: of one that is part of an open request nothing else, and of
another one what it decides about it. -/
structure Redecided (h g : Head) : Prop where
  kept : h.pending.any = true → g = h
  rest : g = { h with
    desired := g.desired
    wantsFastest := g.wantsFastest
    warnedNoMode := g.warnedNoMode }

theorem redecided_desireHead (c : Config) (sole : Bool) (h : Head) :
    Redecided h (desireHead c sole h) := by
  unfold desireHead
  split
  · exact ⟨fun _ => rfl, rfl⟩
  · rename_i hidle
    exact ⟨fun hp => absurd hp hidle, rfl⟩

theorem Redecided.move (hg : Redecided h g) (p : Placement) : Redecided h (move p g) := by
  unfold Layout.move
  split
  · exact hg
  · rename_i hidle
    constructor
    · intro hp
      rw [hg.kept hp] at hidle
      exact absurd hp hidle
    · conv_lhs => rw [hg.rest]

theorem redecided_desire (c : Config) (heads : List Head) :
    List.Forall₂ Redecided heads (desire c heads) := by
  have hdecided : List.Forall₂ Redecided heads (decided c heads) := by
    rw [decided, List.forall₂_map_right_iff, List.forall₂_same]
    exact fun h _ => redecided_desireHead c _ h
  rw [desire_eq]
  generalize decided c heads = ys at hdecided ⊢
  induction placements c heads generalizing ys with
  | nil => exact hdecided
  | cons p rest ih => exact ih _ (forall₂_updateFirst (fun _ _ hg => hg.move p) hdecided)

/-- Two heads that differ at most in what was decided about them, and not even in that if they are
part of an open request. -/
structure SameButTarget (h g : Head) : Prop where
  kept : h.pending.any = true → g = h
  rest : g = { h with desired := g.desired }

theorem SameButTarget.desireHead (hg : SameButTarget h g) (c : Config) (sole : Bool) :
    desireHead c sole g = desireHead c sole h := by
  by_cases hp : h.pending.any = true
  · rw [hg.kept hp]
  · rw [hg.rest]
    simp only [Layout.desireHead, hp, if_false, Bool.false_eq_true]
    rfl

theorem desire_congr (hsame : List.Forall₂ SameButTarget heads others) (c : Config) :
    desire c others = desire c heads := by
  have hdecided : decided c others = decided c heads := by
    have hsole : isSole others = isSole heads := by rw [isSole, isSole, hsame.length_eq]
    rw [decided, decided, hsole, eq_comm, ← List.forall₂_eq_eq_eq, List.forall₂_map_left_iff,
      List.forall₂_map_right_iff]
    exact hsame.imp fun _ _ hg => (hg.desireHead c _).symm
  rw [desire_eq, placements, hdecided]
  rfl

end Layout

namespace Session

open Layout (Redecided SameButTarget)

/-- What has just been computed bears no marks. -/
theorem resetDirty_desire (s : Session) : s.desire.outputs.resetDirty = s.desire.outputs := by
  have hclean := s.isDirty_desire
  simp only [Outputs.isDirty, Bool.or_eq_false_iff, List.any_eq_false] at hclean
  have hheads : (s.desire.outputs.heads.map fun h => { h with dirty := false }) =
      s.desire.outputs.heads := by
    conv_rhs => rw [← List.map_id s.desire.outputs.heads]
    refine List.map_congr_left fun h hh => ?_
    rw [← Bool.eq_false_iff.mpr (hclean.2 h hh)]
    rfl
  rw [Outputs.resetDirty, hheads, ← hclean.1]

/-- The part of a pass that computes the layout, done twice. -/
theorem desire_desire (s : Session) : s.desire.desire = s.desire := by
  have hheads : Layout.desire s.config s.desire.outputs.heads = s.desire.outputs.heads :=
    Layout.desire_desire s.config s.outputs.resetDirty.heads
  conv_lhs => rw [desire, resetDirty_desire]
  exact congrArg (fun heads => { s.desire with outputs := { s.desire.outputs with heads } }) hheads

theorem desire_congr {s : Session} {others : List Head}
    (hsame : List.Forall₂ SameButTarget s.outputs.heads others) :
    ({ s with outputs := { s.outputs with heads := others } } : Session).desire = s.desire := by
  have hunmarked : List.Forall₂ SameButTarget
      (s.outputs.heads.map fun h => { h with dirty := false })
      (others.map fun h => { h with dirty := false }) := by
    rw [List.forall₂_map_left_iff, List.forall₂_map_right_iff]
    refine hsame.imp fun h g hg => ⟨fun hp => ?_, ?_⟩
    · rw [hg.kept hp]
    · conv_lhs => rw [hg.rest]
  have hheads := Layout.desire_congr hunmarked s.config
  exact congrArg (fun heads => { s with outputs := { s.outputs with dirty := false, heads } })
    hheads

/-- Computing the layout leaves every head alone that is part of an open request. Of the others it
changes nothing but what it decides about them, and of the rest of the session nothing at all, apart
from the marks that a pass wipes out before. What was decided earlier has no part in it, and doing
it twice changes nothing. -/
theorem desire_computes_anew (c : Config) (heads : List Head) :
    List.Forall₂ Redecided heads (Layout.desire c heads) ∧
      (∀ others, List.Forall₂ SameButTarget heads others →
        Layout.desire c others = Layout.desire c heads) ∧
      Layout.desire c (Layout.desire c heads) = Layout.desire c heads ∧
      ∀ s : Session,
        s.desire =
          { s with outputs := { s.outputs with
              dirty := false
              heads := Layout.desire s.config s.outputs.resetDirty.heads } } ∧
        (∀ others, List.Forall₂ SameButTarget s.outputs.heads others →
          ({ s with outputs := { s.outputs with heads := others } } : Session).desire = s.desire) ∧
        s.desire.desire = s.desire :=
  ⟨Layout.redecided_desire c heads, fun _ hsame => Layout.desire_congr hsame c,
    Layout.desire_desire c heads, fun s => ⟨rfl, fun _ => desire_congr, s.desire_desire⟩⟩

/-- Two displays, the first of which is being moved. About the second one an earlier pass has
decided what is given. -/
def oneMoving (target : Desired) : List Head :=
  [{ Head.blank ⟨1⟩ with
      pending := ⟨false, false, false, true⟩
      desired := ⟨some ⟨1⟩, .one, true, .normal, 0, 0, 1920, 1080⟩
      modes := [⟨⟨1⟩, 1920, 1080, 60000, true⟩] },
    { Head.blank ⟨2⟩ with desired := target, modes := [⟨⟨2⟩, 1280, 720, 60000, true⟩] }]

theorem desire_computes_anew_oneMoving :
    let stale : Desired := ⟨some ⟨7⟩, ⟨512⟩, true, .rotate90, 5, 6, 7, 8⟩
    List.Forall₂ SameButTarget (oneMoving .blank) (oneMoving stale) ∧
      (Layout.desire .default (oneMoving .blank)).map (fun h => (h.desired.x, h.desired.width)) =
        [(0, 1920), (1920, 1280)] ∧
      Layout.desire .default (oneMoving stale) = Layout.desire .default (oneMoving .blank) := by
  intro stale
  have hsame : List.Forall₂ SameButTarget (oneMoving .blank) (oneMoving stale) :=
    .cons ⟨fun _ => rfl, rfl⟩ (.cons ⟨fun hp => Bool.noConfusion hp, rfl⟩ .nil)
  exact ⟨hsame, by decide, (desire_computes_anew .default (oneMoving .blank)).2.1 _ hsame⟩

end Session

end OutputArranger
