import OutputArranger.Collection
import Mathlib.Data.List.Nodup

/-!
# Updates by key

The elements of a table have keys, and an update names the key of the element that it changes. When
all keys are different an update acts on every element by itself, and so do several updates of
different elements, in whatever order they come.
-/

namespace OutputArranger

variable {α β κ : Type}

theorem updateFirst_id (p : α → Bool) (xs : List α) : updateFirst p (fun a => a) xs = xs := by
  induction xs with
  | nil => rfl
  | cons a rest ih =>
      unfold updateFirst
      split
      · rfl
      · rw [ih]

theorem updateFirst_eq_self {p : α → Bool} {xs : List α} (hp : ∀ a ∈ xs, p a = false)
    (f : α → α) : updateFirst p f xs = xs := by
  induction xs with
  | nil => rfl
  | cons a rest ih =>
      obtain ⟨ha, hrest⟩ := List.forall_mem_cons.mp hp
      simp only [updateFirst, ha, Bool.false_eq_true, if_false, ih hrest]

/-- Two updates of one element are one, if the first leaves alone what the test looks at. -/
theorem updateFirst_updateFirst {p : α → Bool} {f : α → α} (hf : ∀ a, p (f a) = p a)
    (g : α → α) (xs : List α) :
    updateFirst p g (updateFirst p f xs) = updateFirst p (fun a => g (f a)) xs := by
  induction xs with
  | nil => rfl
  | cons a rest ih =>
      by_cases ha : p a = true
      · simp only [updateFirst, ha, hf, if_true]
      · simp only [updateFirst, ha, if_false, Bool.false_eq_true, ih]

/-- What an update leaves alone in the element that it changes, it leaves alone everywhere. -/
theorem map_updateFirst {p : α → Bool} {f : α → α} (g : α → β)
    (h : ∀ a, p a = true → g (f a) = g a) (xs : List α) :
    (updateFirst p f xs).map g = xs.map g := by
  induction xs with
  | nil => rfl
  | cons a rest ih =>
      unfold updateFirst
      split
      · rename_i hp
        simp only [List.map_cons, h a hp]
      · simp only [List.map_cons, ih]

section Disjoint

/-! Updates of elements that pass one test, beside what is done to elements that pass another. -/

variable {p q : α → Bool} {f g : α → α}

/-- Updates of elements that pass different tests can change places. -/
theorem updateFirst_comm (hpq : ∀ a, p a = true → q a = false) (hf : ∀ a, q (f a) = q a)
    (hg : ∀ a, p (g a) = p a) (xs : List α) :
    updateFirst q g (updateFirst p f xs) = updateFirst p f (updateFirst q g xs) := by
  induction xs with
  | nil => rfl
  | cons a rest ih =>
      by_cases hp : p a = true
      · have hq : q a = false := hpq a hp
        simp only [updateFirst, hp, hq, hf, if_true, Bool.false_eq_true, if_false]
      · by_cases hq : q a = true
        · simp only [updateFirst, hp, hq, hg, if_true, Bool.false_eq_true, if_false]
        · simp only [updateFirst, hp, hq, Bool.false_eq_true, if_false, ih]

theorem updateFirst_concat_of_neg {a : α} (ha : p a = false) (f : α → α) (xs : List α) :
    updateFirst p f (xs ++ [a]) = updateFirst p f xs ++ [a] := by
  induction xs with
  | nil => simp [updateFirst, ha]
  | cons b rest ih =>
      by_cases hb : p b = true
      · simp only [List.cons_append, updateFirst, hb, if_true]
      · simp only [List.cons_append, updateFirst, hb, Bool.false_eq_true, if_false, ih]

theorem eraseP_updateFirst (hpq : ∀ a, p a = true → q a = false) (hf : ∀ a, q (f a) = q a)
    (xs : List α) : (updateFirst p f xs).eraseP q = updateFirst p f (xs.eraseP q) := by
  induction xs with
  | nil => rfl
  | cons a rest ih =>
      by_cases hp : p a = true
      · have hq : q a = false := hpq a hp
        simp only [updateFirst, hp, hq, hf, if_true, List.eraseP_cons, cond_false]
      · by_cases hq : q a = true
        · simp only [updateFirst, hp, hq, Bool.false_eq_true, if_false, List.eraseP_cons, cond_true]
        · simp only [updateFirst, hp, hq, Bool.false_eq_true, if_false, List.eraseP_cons,
            cond_false, ih]

theorem filter_updateFirst (hpq : ∀ a, p a = true → q a = false) (hf : ∀ a, q (f a) = q a)
    (xs : List α) : (updateFirst p f xs).filter q = xs.filter q := by
  induction xs with
  | nil => rfl
  | cons a rest ih =>
      by_cases hp : p a = true
      · simp [updateFirst, hp, hf, hpq a hp]
      · simp only [updateFirst, hp, Bool.false_eq_true, if_false, List.filter_cons, ih]

theorem find?_updateFirst (hpq : ∀ a, p a = true → q a = false) (hf : ∀ a, q (f a) = q a)
    (xs : List α) : (updateFirst p f xs).find? q = xs.find? q := by
  rw [← List.head?_filter, filter_updateFirst hpq hf, List.head?_filter]

theorem filter_eraseP (hpq : ∀ a, p a = true → q a = false) (xs : List α) :
    (xs.eraseP p).filter q = xs.filter q := by
  induction xs with
  | nil => rfl
  | cons a rest ih =>
      by_cases hp : p a = true
      · rw [List.eraseP_cons_of_pos hp, List.filter_cons_of_neg (by simp [hpq a hp])]
      · rw [List.eraseP_cons_of_neg hp, List.filter_cons, List.filter_cons, ih]

end Disjoint

/-- Lists that look the same through a property have it in common. -/
theorem forall_mem_of_map_eq {P : α → Prop} {xs ys : List α} (hmap : ys.map P = xs.map P)
    (h : ∀ a ∈ xs, P a) : ∀ a ∈ ys, P a := by
  intro a ha
  obtain ⟨b, hb, hab⟩ := List.mem_map.mp (hmap ▸ List.mem_map_of_mem ha)
  exact hab ▸ h b hb

theorem map_foldl_updateFirst {p : β → α → Bool} {f : β → α → α} (g : α → κ)
    (h : ∀ b a, p b a = true → g (f b a) = g a) (bs : List β) (xs : List α) :
    (bs.foldl (fun xs b => updateFirst (p b) (f b) xs) xs).map g = xs.map g := by
  induction bs generalizing xs with
  | nil => rfl
  | cons b rest ih => rw [List.foldl_cons, ih, map_updateFirst g (h b)]

/-- With different keys, an update of one key changes the elements of that key. -/
theorem updateFirst_eq_map [DecidableEq κ] {key : α → κ} {xs : List α}
    (h : (xs.map key).Nodup) (k : κ) (f : α → α) :
    updateFirst (fun a => decide (key a = k)) f xs =
      xs.map fun a => if key a = k then f a else a := by
  induction xs with
  | nil => rfl
  | cons a rest ih =>
      obtain ⟨hnew, hrest⟩ := List.nodup_cons.mp h
      by_cases hk : key a = k
      · have hsame : (rest.map fun b => if key b = k then f b else b) = rest := by
          conv_rhs => rw [← List.map_id rest]
          apply List.map_congr_left
          intro b hb
          have hne : key b ≠ k := fun hb' =>
            hnew (List.mem_map.mpr ⟨b, hb, hb'.trans hk.symm⟩)
          simp only [hne, if_false, id]
        simp only [updateFirst, hk, decide_true, if_true, List.map_cons, hsame]
      · simp only [updateFirst, hk, decide_false, Bool.false_eq_true, if_false, List.map_cons,
          ih hrest]

theorem filter_eq_self_of_notMem [DecidableEq κ] {key : α → κ} {xs : List α} {k : κ}
    (h : k ∉ xs.map key) : (xs.filter fun a => decide (key a ≠ k)) = xs := by
  refine List.filter_eq_self.mpr fun a ha => decide_eq_true ?_
  rintro rfl
  exact h (List.mem_map_of_mem ha)

/-- With different keys, a key is erased together with every element that has it. -/
theorem eraseP_eq_filter [DecidableEq κ] {key : α → κ} {xs : List α} (h : (xs.map key).Nodup)
    (k : κ) :
    xs.eraseP (fun a => decide (key a = k)) = xs.filter fun a => decide (key a ≠ k) := by
  induction xs with
  | nil => rfl
  | cons a rest ih =>
      obtain ⟨hnew, hrest⟩ := List.nodup_cons.mp h
      by_cases hk : key a = k
      · rw [List.eraseP_cons_of_pos (by simp [hk]), List.filter_cons_of_neg (by simp [hk])]
        exact (filter_eq_self_of_notMem (hk ▸ hnew)).symm
      · rw [List.eraseP_cons_of_neg (by simp [hk]), List.filter_cons_of_pos (by simp [hk]),
          ih hrest]

/-- Updates of different keys act on every element by itself: the one that names its key, if there
is one, is the only one that it sees. -/
theorem foldl_updateFirst_eq_map [DecidableEq κ] {key : α → κ} {tag : β → κ}
    {act : β → α → α} (hact : ∀ b a, key (act b a) = key a) {bs : List β}
    (hbs : (bs.map tag).Nodup) {xs : List α} (hxs : (xs.map key).Nodup) :
    bs.foldl (fun xs b => updateFirst (fun a => decide (key a = tag b)) (act b) xs) xs =
      xs.map fun a =>
        match bs.find? fun b => decide (tag b = key a) with
        | some b => act b a
        | none => a := by
  induction bs generalizing xs with
  | nil => simp
  | cons b rest ih =>
      obtain ⟨hnew, hrest⟩ := List.nodup_cons.mp hbs
      have hsame : (xs.map fun a => if key a = tag b then act b a else a).map key = xs.map key := by
        rw [List.map_map]
        apply List.map_congr_left
        intro a _
        by_cases ha : key a = tag b <;> simp [ha, hact]
      have hkeys : ((xs.map fun a => if key a = tag b then act b a else a).map key).Nodup := by
        rw [hsame]
        exact hxs
      rw [List.foldl_cons, updateFirst_eq_map hxs, ih hrest hkeys, List.map_map]
      apply List.map_congr_left
      intro a _
      by_cases ha : key a = tag b
      · have hnone : rest.find? (fun c => decide (tag c = key a)) = none := by
          rw [List.find?_eq_none]
          intro c hc hca
          rw [decide_eq_true_eq] at hca
          exact hnew (List.mem_map.mpr ⟨c, hc, hca.trans ha⟩)
        simp only [Function.comp_apply, ha, if_true, hact, List.find?_cons, decide_true]
        rw [ha] at hnone
        simp only [hnone]
      · have ha' : tag b ≠ key a := fun h => ha h.symm
        simp only [Function.comp_apply, ha, if_false, List.find?_cons, ha', decide_false]

/-- With different keys, a key finds its element. -/
theorem find?_eq_some_of_mem [DecidableEq κ] {key : α → κ} {xs : List α}
    (h : (xs.map key).Nodup) {a : α} (ha : a ∈ xs) :
    xs.find? (fun b => decide (key b = key a)) = some a := by
  cases hb : xs.find? fun b => decide (key b = key a) with
  | none => simpa using List.find?_eq_none.mp hb a ha
  | some b =>
      have hkey : key b = key a := of_decide_eq_true (List.find?_some hb :)
      rw [List.inj_on_of_nodup_map h (List.mem_of_find?_eq_some hb) ha hkey]

/-- What comes before the first element that passes a test does not pass it. -/
theorem eq_false_of_idxOf_lt [DecidableEq κ] {key : α → κ} {xs : List α} (h : (xs.map key).Nodup)
    {p : α → Bool} {a b : α} (hfirst : xs.find? p = some a) (hb : b ∈ xs)
    (hlt : (xs.map key).idxOf (key b) < (xs.map key).idxOf (key a)) : p b = false := by
  obtain ⟨_, before, after, rfl, hbefore⟩ := List.find?_eq_some_iff_append.mp hfirst
  have hmem : key b ∈ before.map key := by
    by_contra hnot
    rw [List.map_append, List.map_cons, List.idxOf_append_of_notMem hnot, List.idxOf_append] at hlt
    split at hlt
    · rename_i ha
      have hle := List.idxOf_lt_length_of_mem ha
      omega
    · rw [List.idxOf_cons_self] at hlt
      omega
  obtain ⟨c, hc, hkey⟩ := List.mem_map.mp hmem
  obtain rfl := List.inj_on_of_nodup_map h (List.mem_append_left _ hc) hb hkey
  simpa using hbefore c hc

/-- A test counts less than a wider one that an element passes besides. -/
theorem countP_lt_countP {p q : α → Bool} {xs : List α}
    (hle : ∀ a ∈ xs, q a = true → p a = true) {b : α} (hb : b ∈ xs) (hp : p b = true)
    (hq : q b = false) : xs.countP q < xs.countP p := by
  obtain ⟨before, after, rfl⟩ := List.append_of_mem hb
  have hbefore : before.countP q ≤ before.countP p :=
    List.countP_mono_left fun a ha => hle a (by simp [ha])
  have hafter : after.countP q ≤ after.countP p :=
    List.countP_mono_left fun a ha => hle a (by simp [ha])
  simp only [List.countP_append, List.countP_cons, hp, hq, if_true, Bool.false_eq_true, if_false]
  omega

end OutputArranger
