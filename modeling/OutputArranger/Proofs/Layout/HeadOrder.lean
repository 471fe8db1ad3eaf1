import OutputArranger.Proofs.Layout.Targets

/-!
# The order of heads

Taking out the heads that the first pattern selects, then of the others those that the second one
selects, and so on, is a stable sort: heads come in the order of the first patterns that select
them, and heads with the same first pattern stay in the order of their discovery. It does not matter
how a pattern selects.
-/

namespace OutputArranger

variable {α κ : Type}

/-! ## Stable sorting -/

/-- A list with the elements of another one in the order of their ranks. In each rank they stand as
they did before. -/
structure IsStableSort (rank : α → Nat) (xs sorted : List α) : Prop where
  perm : sorted.Perm xs
  ordered : sorted.Pairwise fun a b => rank a ≤ rank b
  stable : ∀ n, (sorted.filter fun a => rank a = n) = xs.filter fun a => rank a = n

theorem mem_iff_of_filter_eq {rank : α → Nat} {xs ys : List α}
    (h : ∀ n, (xs.filter fun a => rank a = n) = ys.filter fun a => rank a = n) {a : α} :
    a ∈ xs ↔ a ∈ ys := by
  have hclass := congrArg (a ∈ ·) (h (rank a))
  simpa using hclass

/-- Two lists that are in order are equal if they agree in each rank. -/
theorem eq_of_filter_eq {rank : α → Nat} {xs ys : List α}
    (hx : xs.Pairwise fun a b => rank a ≤ rank b) (hy : ys.Pairwise fun a b => rank a ≤ rank b)
    (h : ∀ n, (xs.filter fun a => rank a = n) = ys.filter fun a => rank a = n) : xs = ys := by
  induction xs generalizing ys with
  | nil =>
      cases ys with
      | nil => rfl
      | cons b ys => simpa using (mem_iff_of_filter_eq h).mpr List.mem_cons_self
  | cons a xs ih =>
      cases ys with
      | nil => simpa using (mem_iff_of_filter_eq h).mp List.mem_cons_self
      | cons b ys =>
          -- both first elements have the least rank, and of that rank they are the first
          have hab : rank a ≤ rank b := by
            rcases List.mem_cons.mp ((mem_iff_of_filter_eq h).mpr List.mem_cons_self) with rfl | hb
            · exact Nat.le_refl _
            · exact List.rel_of_pairwise_cons hx hb
          have hba : rank b ≤ rank a := by
            rcases List.mem_cons.mp ((mem_iff_of_filter_eq h).mp List.mem_cons_self) with rfl | ha
            · exact Nat.le_refl _
            · exact List.rel_of_pairwise_cons hy ha
          have hrank : rank b = rank a := Nat.le_antisymm hba hab
          have hfirst := h (rank a)
          simp only [List.filter_cons, hrank, decide_true, if_true, List.cons.injEq] at hfirst
          obtain ⟨rfl, _⟩ := hfirst
          rw [ih hx.of_cons hy.of_cons]
          intro n
          have hn := h n
          rw [List.filter_cons, List.filter_cons] at hn
          split at hn
          · exact (List.cons.inj hn).2
          · exact hn

theorem isStableSort_mergeSort (rank : α → Nat) (xs : List α) :
    IsStableSort rank xs (xs.mergeSort fun a b => rank a ≤ rank b) := by
  have trans (a b c : α) (hab : decide (rank a ≤ rank b) = true)
      (hbc : decide (rank b ≤ rank c) = true) : decide (rank a ≤ rank c) = true := by
    simp only [decide_eq_true_eq] at hab hbc ⊢
    omega
  have total (a b : α) : (decide (rank a ≤ rank b) || decide (rank b ≤ rank a)) = true := by
    simp only [Bool.or_eq_true, decide_eq_true_eq]
    omega
  have hperm := List.mergeSort_perm xs fun a b => decide (rank a ≤ rank b)
  refine ⟨hperm, ?_, fun n => ?_⟩
  · exact (List.pairwise_mergeSort trans total xs).imp of_decide_eq_true
  · have hlevel : (xs.filter fun a => rank a = n).Pairwise
        fun a b => decide (rank a ≤ rank b) = true := by
      rw [List.pairwise_filter]
      refine List.pairwise_of_forall fun a b ha hb => ?_
      simp only [decide_eq_true_eq] at ha hb ⊢
      omega
    have hsub := (List.sublist_mergeSort trans total hlevel List.filter_sublist).filter
      fun a => rank a = n
    simp only [List.filter_filter, Bool.and_self] at hsub
    exact (hsub.eq_of_length (hperm.filter _).length_eq.symm).symm

theorem eq_mergeSort {rank : α → Nat} {xs sorted : List α}
    (ordered : sorted.Pairwise fun a b => rank a ≤ rank b)
    (stable : ∀ n, (sorted.filter fun a => rank a = n) = xs.filter fun a => rank a = n) :
    sorted = xs.mergeSort fun a b => rank a ≤ rank b := by
  have hmerge := isStableSort_mergeSort rank xs
  exact eq_of_filter_eq ordered hmerge.ordered fun n => (stable n).trans (hmerge.stable n).symm

/-! ## Taking turns -/

/-- What the first key selects, then of the rest what the second one selects, and so on. -/
def inTurn (selects : κ → α → Bool) : List κ → List α → List α
  | [], xs => xs
  | k :: ks, xs => xs.filter (selects k) ++ inTurn selects ks (xs.filter (!selects k ·))

/-- The index of the first key that selects an element; one that none selects comes after all. -/
def turn (selects : κ → α → Bool) (ks : List κ) (a : α) : Nat := ks.findIdx (selects · a)

variable {selects : κ → α → Bool} {k : κ} {ks : List κ} {a : α} {n : Nat}

theorem turn_eq_zero_iff : turn selects (k :: ks) a = 0 ↔ selects k a = true := by
  rw [turn, List.findIdx_cons]
  cases selects k a <;> simp

theorem turn_eq_succ_iff :
    turn selects (k :: ks) a = n + 1 ↔ selects k a = false ∧ turn selects ks a = n := by
  rw [turn, List.findIdx_cons]
  cases selects k a <;> simp [turn]

theorem mem_inTurn {xs : List α} : a ∈ inTurn selects ks xs ↔ a ∈ xs := by
  induction ks generalizing xs with
  | nil => exact Iff.rfl
  | cons k ks ih =>
      rw [inTurn, List.mem_append, ih, List.mem_filter, List.mem_filter]
      cases selects k a <;> simp

/-- What comes later was not selected. -/
theorem selects_eq_false_of_mem_inTurn {xs : List α}
    (ha : a ∈ inTurn selects ks (xs.filter (!selects k ·))) : selects k a = false := by
  simpa using (List.mem_filter.mp (mem_inTurn.mp ha)).2

theorem filter_inTurn (selects : κ → α → Bool) (ks : List κ) (xs : List α) (n : Nat) :
    ((inTurn selects ks xs).filter fun a => turn selects ks a = n) =
      xs.filter fun a => turn selects ks a = n := by
  induction ks generalizing xs n with
  | nil => rfl
  | cons k ks ih =>
      rw [inTurn, List.filter_append, List.filter_filter]
      cases n with
      | zero =>
          have hnone : ((inTurn selects ks (xs.filter (!selects k ·))).filter
              fun a => turn selects (k :: ks) a = 0) = [] := by
            rw [List.filter_eq_nil_iff]
            intro a ha
            simp [turn_eq_zero_iff, selects_eq_false_of_mem_inTurn ha]
          rw [hnone, List.append_nil]
          simp only [turn_eq_zero_iff, Bool.decide_eq_true, Bool.and_self]
      | succ n =>
          have hnone : (xs.filter fun a =>
              decide (turn selects (k :: ks) a = n + 1) && selects k a) = [] := by
            rw [List.filter_eq_nil_iff]
            intro a _
            cases h : selects k a <;> simp [turn_eq_succ_iff, h]
          have hlater : ((inTurn selects ks (xs.filter (!selects k ·))).filter
                fun a => turn selects (k :: ks) a = n + 1) =
              (inTurn selects ks (xs.filter (!selects k ·))).filter
                fun a => turn selects ks a = n := by
            refine List.filter_congr fun a ha => ?_
            simp [turn_eq_succ_iff, selects_eq_false_of_mem_inTurn ha]
          rw [hnone, List.nil_append, hlater, ih, List.filter_filter]
          refine List.filter_congr fun a _ => ?_
          cases h : selects k a <;> simp [turn_eq_succ_iff, h]

theorem ordered_inTurn (selects : κ → α → Bool) (ks : List κ) (xs : List α) :
    (inTurn selects ks xs).Pairwise fun a b => turn selects ks a ≤ turn selects ks b := by
  induction ks generalizing xs with
  | nil => exact List.pairwise_of_forall fun _ _ => Nat.le_refl _
  | cons k ks ih =>
      rw [inTurn, List.pairwise_append]
      have hfirst : ∀ a ∈ xs.filter (selects k), turn selects (k :: ks) a = 0 := by
        intro a ha
        exact turn_eq_zero_iff.mpr (List.mem_filter.mp ha).2
      refine ⟨?_, ?_, fun a ha b _ => ?_⟩
      · refine List.pairwise_of_forall_mem_list fun a ha b _ => ?_
        rw [hfirst a ha]
        exact Nat.zero_le _
      · refine (ih (xs.filter (!selects k ·))).imp_of_mem fun {a b} ha hb hab => ?_
        have hsucc {c : α} (hc : c ∈ inTurn selects ks (xs.filter (!selects k ·))) :
            turn selects (k :: ks) c = turn selects ks c + 1 :=
          turn_eq_succ_iff.mpr ⟨selects_eq_false_of_mem_inTurn hc, rfl⟩
        rw [hsucc ha, hsucc hb]
        omega
      · rw [hfirst a ha]
        exact Nat.zero_le _

theorem isStableSort_inTurn (selects : κ → α → Bool) (ks : List κ) (xs : List α) :
    IsStableSort (turn selects ks) xs (inTurn selects ks xs) := by
  rw [eq_mergeSort (ordered_inTurn selects ks xs) (filter_inTurn selects ks xs)]
  exact isStableSort_mergeSort _ xs

/-! ## Heads -/

namespace Layout

theorem orderHeads_eq_inTurn (patterns : List String) (heads : List Head) :
    orderHeads patterns heads =
      inTurn (fun pattern h => h.isSelectedBy pattern) patterns heads := by
  induction patterns generalizing heads with
  | nil => rfl
  | cons pattern rest ih => rw [orderHeads, ih, inTurn]

/-- Heads come in the order of the first patterns that select them, those that no pattern selects
last, and in the order of their discovery where that leaves a choice. It is the same for any other
way in which patterns may select. -/
theorem orderHeads_is_stableSort (patterns : List String) (heads : List Head) :
    let first := turn (fun pattern h => Head.isSelectedBy h pattern) patterns
    IsStableSort first heads (orderHeads patterns heads) ∧
      orderHeads patterns heads = heads.mergeSort (fun g h => first g ≤ first h) ∧
      orderHeads patterns heads =
        inTurn (fun pattern h => Head.isSelectedBy h pattern) patterns heads ∧
      ∀ selects : String → Head → Bool,
        IsStableSort (turn selects patterns) heads (inTurn selects patterns heads) := by
  intro first
  have hsame := orderHeads_eq_inTurn patterns heads
  refine ⟨?_, ?_, hsame, fun selects => isStableSort_inTurn selects patterns heads⟩
  · rw [hsame]
    exact isStableSort_inTurn _ patterns heads
  · rw [hsame]
    exact eq_mergeSort (ordered_inTurn _ patterns heads) (filter_inTurn _ patterns heads)

/-- A pattern that has had its turn, one that selects nothing and one that selects everything. -/
example :
    (orderHeads ["DP-2", "", "DP-2", "!DP"]
      (["DP-1", "DP-2", "eDP", "DP-2"].map fun name =>
        { Head.blank ⟨0⟩ with name := some name })).map (·.name) =
      [some "DP-2", some "DP-2", some "DP-1", some "eDP"] := by decide +kernel

end Layout

end OutputArranger
