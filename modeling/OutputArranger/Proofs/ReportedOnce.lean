import Mathlib.Data.List.Induction
import OutputArranger.Proofs.Outputs

/-!
# Heads are reported once

A head that arrives is noted until the arrivals are taken, and a head that leaves until the
departures are taken. The same handle may arrive, leave and arrive again between two takings, so
what is noted is compared with the places at which it was noted: a handle in the list stands for one
arrival of its head, and not for an earlier one that was followed by a departure.
-/

namespace OutputArranger

/-! ## Lists with a history -/

section Noted

variable {α : Type} {made struck : Nat → α → Prop} {n : Nat} {entries : List α} {a : α}

/-- The entries of a list after so many operations are those that were made by one of them and that
none of the later ones has struck out, each once and in the order in which they were made. -/
def Noted (made struck : Nat → α → Prop) (n : Nat) (entries : List α) : Prop :=
  ∃ placed : List (Nat × α),
    placed.map Prod.snd = entries ∧ (placed.map Prod.fst).Pairwise (· < ·) ∧
      ∀ i a, (i, a) ∈ placed ↔ made i a ∧ i < n ∧ ∀ k, i < k → k < n → ¬ struck k a

theorem noted_zero : Noted made struck 0 [] :=
  ⟨[], rfl, List.Pairwise.nil, fun i a => by simp⟩

/-- An operation that makes no entry leaves those that it does not strike out. -/
theorem Noted.without {keeps : α → Bool} (h : Noted made struck n entries)
    (hmade : ∀ a, ¬ made n a) (hstruck : ∀ a, struck n a ↔ keeps a = false) :
    Noted made struck (n + 1) (entries.filter keeps) := by
  obtain ⟨placed, rfl, hsorted, hplaced⟩ := h
  refine ⟨placed.filter fun e => keeps e.2, ?_, ?_, fun i a => ?_⟩
  · rw [List.filter_map]
    rfl
  · exact hsorted.sublist (List.filter_sublist.map Prod.fst)
  · rw [List.mem_filter, hplaced]
    constructor
    · rintro ⟨⟨hi, hin, hlater⟩, hkeeps⟩
      refine ⟨hi, by omega, fun k hik hk => ?_⟩
      rcases Nat.lt_succ_iff_lt_or_eq.mp hk with hk | rfl
      · exact hlater k hik hk
      · simp [hstruck, hkeeps]
    · rintro ⟨hi, hin, hlater⟩
      have hne : i ≠ n := fun hn => hmade a (hn ▸ hi)
      refine ⟨⟨hi, by omega, fun k hik hk => hlater k hik (by omega)⟩, ?_⟩
      have hkept : ¬ struck n a := hlater n (by omega) (by omega)
      simpa [hstruck] using hkept

theorem Noted.kept (h : Noted made struck n entries) (hmade : ∀ a, ¬ made n a)
    (hstruck : ∀ a, ¬ struck n a) : Noted made struck (n + 1) entries := by
  have hall : Noted made struck (n + 1) (entries.filter fun _ => true) :=
    h.without hmade (by simpa using hstruck)
  simpa using hall

/-- An operation that strikes everything out leaves nothing. -/
theorem Noted.cleared (h : Noted made struck n entries) (hmade : ∀ a, ¬ made n a)
    (hstruck : ∀ a, struck n a) : Noted made struck (n + 1) [] := by
  have hnone : Noted made struck (n + 1) (entries.filter fun _ => false) :=
    h.without hmade (by simpa using hstruck)
  simpa using hnone

theorem Noted.entered (h : Noted made struck n entries) (hmade : ∀ b, made n b ↔ b = a)
    (hstruck : ∀ b, ¬ struck n b) : Noted made struck (n + 1) (entries ++ [a]) := by
  obtain ⟨placed, rfl, hsorted, hplaced⟩ := h
  refine ⟨placed ++ [(n, a)], by simp, ?_, fun i b => ?_⟩
  · rw [List.map_append, List.pairwise_append]
    refine ⟨hsorted, List.pairwise_singleton _ _, fun i hi j hj => ?_⟩
    obtain ⟨e, he, rfl⟩ := List.mem_map.mp hi
    obtain rfl := List.mem_singleton.mp hj
    exact ((hplaced e.1 e.2).mp he).2.1
  · rw [List.mem_append, hplaced, List.mem_singleton, Prod.mk.injEq]
    constructor
    · rintro (⟨hi, hin, hlater⟩ | ⟨rfl, rfl⟩)
      · refine ⟨hi, by omega, fun k hik hk => ?_⟩
        rcases Nat.lt_succ_iff_lt_or_eq.mp hk with hk | rfl
        · exact hlater k hik hk
        · exact hstruck b
      · exact ⟨(hmade b).mpr rfl, by omega, fun k hik hk => by omega⟩
    · rintro ⟨hi, hin, hlater⟩
      rcases Nat.lt_succ_iff_lt_or_eq.mp hin with hin | rfl
      · exact .inl ⟨hi, hin, fun k hik hk => hlater k hik (by omega)⟩
      · exact .inr ⟨rfl, (hmade b).mp hi⟩

end Noted

/-! ## Arrivals and departures -/

namespace Outputs

/-- What is done to the outputs. A head is changed under its handle. -/
inductive Operation where
  | add (id : HeadId)
  | remove (id : HeadId)
  | revise (id : HeadId) (f : Head → Head) (keeps : ∀ h, (f h).id = h.id)
  | takeArrived
  | takeDeparted

/-- The outputs after an operation. Those that take something hand out the list that they clear. -/
def Operation.on (o : Outputs) : Operation → Outputs
  | .add id => o.addHead id
  | .remove id => o.removeHead id
  | .revise id f _ => o.updateHead id f
  | .takeArrived => o.clearArrived
  | .takeDeparted => o.clearDeparted

/-- The outputs after several operations, none of them having been there before. -/
def operated (operations : List Operation) : Outputs := operations.foldl Operation.on .empty

variable {operations : List Operation} {n : Nat} {id : HeadId} {op : Operation}

variable (operations) in
/-- The operation at this place adds a head that is not there. -/
def AddedAt (n : Nat) (id : HeadId) : Prop :=
  operations[n]? = some (.add id) ∧ id ∉ (operated (operations.take n)).ids

variable (operations) in
/-- The operation at this place removes a head that is there and has this to be reported. -/
def RemovedAt (n : Nat) (d : DepartedHead) : Prop :=
  ∃ id h, operations[n]? = some (.remove id) ∧
    (operated (operations.take n)).head? id = some h ∧ d = ⟨h.name, h.description⟩

theorem operated_take_succ (hop : operations[n]? = some op) :
    operated (operations.take (n + 1)) = op.on (operated (operations.take n)) := by
  rw [operated, List.take_add_one, hop, Option.toList_some, List.foldl_append]
  rfl

theorem operated_take_succ_of_none (hop : operations[n]? = none) :
    operated (operations.take (n + 1)) = operated (operations.take n) := by
  rw [List.take_add_one, hop, Option.toList_none, List.append_nil]

/-! ### Heads that are to be reported -/

theorem mem_ids_addHead {o : Outputs} {a : HeadId} (ha : a ∈ o.ids) (id : HeadId) :
    a ∈ (o.addHead id).ids := by
  unfold addHead
  split
  · exact ha
  · rw [ids, List.map_append]
    exact List.mem_append_left _ ha

theorem mem_ids_removeHead {o : Outputs} {a : HeadId} (ha : a ∈ o.ids) (hne : a ≠ id) :
    a ∈ (o.removeHead id).ids := by
  unfold removeHead
  split
  · exact ha
  · obtain ⟨h, hh, rfl⟩ := List.mem_map.mp ha
    exact List.mem_map_of_mem ((List.mem_eraseP_of_neg (by simpa using hne)).mpr hh)

/-- An operation leaves to be reported only heads that are there. -/
theorem arrived_present_on {o : Outputs} (ho : ∀ a ∈ o.arrived, a ∈ o.ids) (op : Operation) :
    ∀ a ∈ (op.on o).arrived, a ∈ (op.on o).ids := by
  intro a ha
  cases op with
  | add id =>
      by_cases hnew : a ∈ o.arrived
      · exact mem_ids_addHead (ho a hnew) id
      · simp only [Operation.on, addHead] at ha ⊢
        split at ha
        · exact absurd ha hnew
        · simp_all [ids, Head.blank]
  | remove id =>
      simp only [Operation.on, removeHead] at ha
      split at ha
      · rename_i hnone
        rw [Operation.on, removeHead, hnone]
        exact ho a ha
      · obtain ⟨hold, hne⟩ := List.mem_filter.mp ha
        exact mem_ids_removeHead (ho a hold) (of_decide_eq_true hne)
  | revise id f keeps =>
      have hids : (o.updateHead id f).ids = o.ids :=
        map_updateFirst Head.id (fun h _ => keeps h) o.heads
      exact hids.symm ▸ ho a ha
  | takeArrived => simp [Operation.on, clearArrived] at ha
  | takeDeparted => exact ho a ha

theorem arrived_present (operations : List Operation) :
    ∀ a ∈ (operated operations).arrived, a ∈ (operated operations).ids := by
  induction operations using List.reverseRecOn with
  | nil => simp [operated, empty]
  | append_singleton operations op ih =>
      rw [operated, List.foldl_append]
      exact arrived_present_on ih op

theorem arrived_removeHead {o : Outputs} (ho : ∀ a ∈ o.arrived, a ∈ o.ids) (id : HeadId) :
    (o.removeHead id).arrived = o.arrived.filter (· ≠ id) := by
  unfold removeHead
  split
  · rename_i hnone
    refine (List.filter_eq_self.mpr fun a ha => decide_eq_true ?_).symm
    rintro rfl
    exact head?_eq_none_iff.mp hnone (ho a ha)
  · rfl

theorem noted_arrived (operations : List Operation) (n : Nat) :
    Noted (AddedAt operations)
      (fun k id => operations[k]? = some .takeArrived ∨ operations[k]? = some (.remove id)) n
      (operated (operations.take n)).arrived := by
  induction n with
  | zero => exact noted_zero
  | succ n ih =>
      cases hop : operations[n]? with
      | none =>
          rw [operated_take_succ_of_none hop]
          exact ih.kept (by simp [AddedAt, hop]) (by simp [hop])
      | some op =>
          rw [operated_take_succ hop]
          cases op with
          | add id =>
              simp only [Operation.on, addHead, head?_isSome_iff]
              split
              · rename_i hknown
                refine ih.kept (fun a ha => ?_) (by simp [hop])
                obtain ⟨heq, hnew⟩ := ha
                simp only [hop, Option.some.injEq, Operation.add.injEq] at heq
                exact hnew (heq ▸ hknown)
              · rename_i hnew
                refine ih.entered (fun b => ?_) (by simp [hop])
                simp only [AddedAt, hop, Option.some.injEq, Operation.add.injEq]
                exact ⟨fun hb => hb.1.symm, fun hb => ⟨hb.symm, hb ▸ hnew⟩⟩
          | remove id =>
              rw [Operation.on, arrived_removeHead (arrived_present _)]
              refine ih.without (by simp [AddedAt, hop]) fun a => ?_
              simp only [hop, Option.some.injEq, reduceCtorEq, false_or, Operation.remove.injEq,
                decide_eq_false_iff_not, not_not]
              exact eq_comm
          | revise id f keeps => exact ih.kept (by simp [AddedAt, hop]) (by simp [hop])
          | takeArrived => exact ih.cleared (by simp [AddedAt, hop]) (by simp [hop])
          | takeDeparted => exact ih.kept (by simp [AddedAt, hop]) (by simp [hop])

theorem noted_departed (operations : List Operation) (n : Nat) :
    Noted (RemovedAt operations) (fun k _ => operations[k]? = some .takeDeparted) n
      (operated (operations.take n)).departed := by
  induction n with
  | zero => exact noted_zero
  | succ n ih =>
      cases hop : operations[n]? with
      | none =>
          rw [operated_take_succ_of_none hop]
          exact ih.kept (by simp [RemovedAt, hop]) (by simp [hop])
      | some op =>
          rw [operated_take_succ hop]
          cases op with
          | add id =>
              have hsame : ((operated (operations.take n)).addHead id).departed =
                  (operated (operations.take n)).departed := by
                unfold addHead
                split <;> rfl
              rw [Operation.on, hsame]
              exact ih.kept (by simp [RemovedAt, hop]) (by simp [hop])
          | remove id =>
              simp only [Operation.on, removeHead]
              split
              · rename_i hnone
                refine ih.kept (fun d hd => ?_) (by simp [hop])
                obtain ⟨other, h, heq, hknown, _⟩ := hd
                obtain rfl : id = other := by simpa [hop] using heq
                rw [hnone] at hknown
                contradiction
              · rename_i h hknown
                refine ih.entered (fun d => ⟨?_, ?_⟩) (by simp [hop])
                · rintro ⟨other, g, heq, hg, rfl⟩
                  obtain rfl : id = other := by simpa [hop] using heq
                  obtain rfl : h = g := Option.some.inj (hknown.symm.trans hg)
                  rfl
                · rintro rfl
                  exact ⟨id, h, hop, hknown, rfl⟩
          | revise id f keeps => exact ih.kept (by simp [RemovedAt, hop]) (by simp [hop])
          | takeArrived => exact ih.kept (by simp [RemovedAt, hop]) (by simp [hop])
          | takeDeparted => exact ih.cleared (by simp [RemovedAt, hop]) (by simp [hop])

/-- Whatever is done to the outputs, the arrivals that are there to be taken are those of heads that
were added while they were not there, since the arrivals were taken last, and that have not been
removed after that; each of these additions counts once, in their order, and the heads are there.
The departures that are there to be taken are those of heads that were removed since the departures
were taken last, each removal once and in their order, with the name and the description that the
head had when it was removed. To add a head that is there only marks that there is something to be
done, and to remove one that is not there does nothing. -/
theorem reported_once (operations : List Operation) (n : Nat) :
    let o := operated (operations.take n)
    Noted (AddedAt operations)
        (fun k id => operations[k]? = some .takeArrived ∨ operations[k]? = some (.remove id)) n
        o.arrived ∧
      Noted (RemovedAt operations) (fun k _ => operations[k]? = some .takeDeparted) n o.departed ∧
      (∀ id ∈ o.arrived, id ∈ o.ids) ∧
      ∀ id,
        if id ∈ o.ids then o.addHead id = { o with dirty := true } else o.removeHead id = o := by
  intro o
  refine ⟨noted_arrived operations n, noted_departed operations n, arrived_present _, fun id => ?_⟩
  split
  · rename_i hknown
    rw [addHead, if_pos (head?_isSome_iff.mpr hknown)]
  · rename_i hunknown
    rw [removeHead, head?_eq_none_iff.mpr hunknown]

-- A head that comes back before anything was taken has arrived once and departed once.
example :
    let o := operated [.add ⟨1⟩, .remove ⟨1⟩, .add ⟨1⟩]
    o.arrived = [⟨1⟩] ∧ o.departed = [⟨none, none⟩] := by
  decide

end Outputs

end OutputArranger
