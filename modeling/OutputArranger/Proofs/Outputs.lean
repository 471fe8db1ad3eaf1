import OutputArranger.Outputs
import OutputArranger.Proofs.Collection

/-!
# What the operations on outputs leave alone

Of every head its handle and the pending properties are what an open request depends on. Reports,
the lid and the decisions of a pass change neither; a head that arrives brings an empty part, and a
head that leaves takes its part away.
-/

namespace OutputArranger

/-- What an open request depends on in a head. -/
def Head.stake (h : Head) : HeadId × Pending := (h.id, h.pending)

namespace Outputs

/-- The handles of the heads, in the order of their discovery. -/
def ids (o : Outputs) : List HeadId := o.heads.map (·.id)

def stakes (o : Outputs) : List (HeadId × Pending) := o.heads.map Head.stake

theorem ids_eq_map_stakes (o : Outputs) : o.ids = o.stakes.map Prod.fst := by
  simp only [ids, stakes, List.map_map]
  rfl

theorem ids_eq_of_stakes_eq {o p : Outputs} (h : o.stakes = p.stakes) : o.ids = p.ids := by
  rw [ids_eq_map_stakes, h, ids_eq_map_stakes]

theorem isDirty_iff (o : Outputs) :
    o.isDirty = true ↔ o.dirty = true ∨ ∃ h ∈ o.heads, h.dirty = true := by
  simp only [isDirty, Bool.or_eq_true, List.any_eq_true]

/-- The marks decide; what else is in the heads does not matter. -/
theorem isDirty_congr {o p : Outputs} (hd : p.dirty = o.dirty)
    (hh : p.heads.map Head.dirty = o.heads.map Head.dirty) : p.isDirty = o.isDirty := by
  have any (l : List Head) : l.any Head.dirty = (l.map Head.dirty).any id := by
    rw [List.any_map]
    rfl
  rw [isDirty, isDirty, hd, any, hh, ← any]

@[simp] theorem isDirty_resetDirty (o : Outputs) : o.resetDirty.isDirty = false := by
  rw [Bool.eq_false_iff, ne_eq, isDirty_iff]
  simp [resetDirty]

theorem head?_eq_none_iff {o : Outputs} {id : HeadId} : o.head? id = none ↔ id ∉ o.ids := by
  simp only [head?, ids, List.find?_eq_none, decide_eq_true_eq, List.mem_map, not_exists, not_and]

theorem head?_isSome_iff {o : Outputs} {id : HeadId} : (o.head? id).isSome = true ↔ id ∈ o.ids := by
  rw [← not_iff_not, Bool.not_eq_true, Option.isSome_eq_false_iff, Option.isNone_iff_eq_none,
    head?_eq_none_iff]

/-- With different handles, an update changes the head of its handle and no other. -/
theorem heads_updateHead {o : Outputs} (h : o.ids.Nodup) (id : HeadId) (f : Head → Head) :
    (o.updateHead id f).heads = o.heads.map fun a => if a.id = id then f a else a :=
  updateFirst_eq_map h id f

theorem stakes_updateHead {f : Head → Head} (hf : ∀ h, (f h).stake = h.stake) (id : HeadId)
    (o : Outputs) : (o.updateHead id f).stakes = o.stakes :=
  map_updateFirst Head.stake (fun h _ => hf h) o.heads

theorem stakes_mapHeads {f : Head → Head} (hf : ∀ h, (f h).stake = h.stake) (o : Outputs) :
    (o.mapHeads f).stakes = o.stakes := by
  simp only [stakes, mapHeads, List.map_map]
  exact List.map_congr_left fun h _ => hf h

@[simp] theorem stakes_resetDirty (o : Outputs) : o.resetDirty.stakes = o.stakes := by
  simp only [stakes, resetDirty, List.map_map]
  rfl

@[simp] theorem stakes_resetPending (o : Outputs) :
    o.resetPending.stakes = o.ids.map fun id => (id, Pending.none) := by
  simp only [stakes, resetPending, mapHeads, ids, List.map_map]
  rfl

theorem stakes_addHead (id : HeadId) (o : Outputs) :
    (o.addHead id).stakes = o.stakes ∨
      id ∉ o.ids ∧ (o.addHead id).stakes = o.stakes ++ [(id, Pending.none)] := by
  cases h : o.head? id with
  | none =>
      refine Or.inr ⟨head?_eq_none_iff.mp h, ?_⟩
      simp only [addHead, h, Option.isSome_none, Bool.false_eq_true, if_false, stakes,
        List.map_append, List.map_cons, List.map_nil]
      rfl
  | some a =>
      refine Or.inl ?_
      simp only [addHead, h, Option.isSome_some, if_true, stakes]

theorem heads_removeHead {o : Outputs} (hids : o.ids.Nodup) (id : HeadId) :
    (o.removeHead id).heads = o.heads.filter fun h => decide (h.id ≠ id) := by
  unfold removeHead
  cases hknown : o.head? id with
  | none => exact (filter_eq_self_of_notMem (head?_eq_none_iff.mp hknown)).symm
  | some h => exact eraseP_eq_filter hids id

theorem stakes_removeHead_sublist (id : HeadId) (o : Outputs) :
    (o.removeHead id).stakes.Sublist o.stakes := by
  unfold removeHead
  cases o.head? id with
  | none => exact List.Sublist.refl _
  | some h => exact List.Sublist.map Head.stake (List.eraseP_sublist)

end Outputs

end OutputArranger
