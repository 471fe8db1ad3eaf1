import Mathlib.Data.Int.Order.Basic
import Mathlib.Data.List.Lex
import OutputArranger.Proofs.Layout.ModeChoice

/-!
# The best of several modes

The best mode is the one whose key is greatest. Keys end with the handle, so that no two modes of a
head have the same key: which mode is the best depends on the modes alone and not on the order in
which they were announced.
-/

namespace OutputArranger.Mode

variable {key : Mode → List Int} {modes others : List Mode} {m n p : Mode}

/-! ## Keys -/

theorem keyBelow_iff {as bs : List Int} : keyBelow as bs = true ↔ as < bs := by
  induction as generalizing bs with
  | nil => cases bs <;> simp [keyBelow]
  | cons a as ih =>
      cases bs with
      | nil => simp [keyBelow]
      | cons b bs => simp [keyBelow, List.cons_lt_cons_iff, ih]

/-- A mode comes behind another one in size: it has less area, or else a lower rate, or else less
width, or else the higher handle. -/
def Behind (n m : Mode) : Prop :=
  n.area < m.area ∨
    n.area = m.area ∧
      (n.refresh < m.refresh ∨
        n.refresh = m.refresh ∧
          (n.width < m.width ∨ n.width = m.width ∧ m.id.value < n.id.value))

theorem sizeKey_lt_iff : sizeKey n < sizeKey m ↔ n.Behind m := by
  simp [sizeKey, Behind, List.cons_lt_cons_iff]

theorem rateKey_le_iff : rateKey n ≤ rateKey m ↔
    n.refresh < m.refresh ∨
      n.refresh = m.refresh ∧ (n.preferred = false ∧ m.preferred = true ∨
        n.preferred = m.preferred ∧ m.id.value ≤ n.id.value) := by
  rw [← not_lt]
  cases hn : n.preferred <;> cases hm : m.preferred <;>
    simp [rateKey, hn, hm, List.cons_lt_cons_iff] <;> omega

/-- A key tells the handle. -/
def TellsHandle (key : Mode → List Int) : Prop := ∀ m n, key m = key n → m.id = n.id

theorem tellsHandle_sizeKey : TellsHandle sizeKey := by
  intro m n h
  simp only [sizeKey, List.cons.injEq] at h
  have hvalue : m.id.value = n.id.value := by omega
  exact congrArg ModeId.mk hvalue

theorem tellsHandle_rateKey : TellsHandle rateKey := by
  intro m n h
  simp only [rateKey, List.cons.injEq] at h
  have hvalue : m.id.value = n.id.value := by omega
  exact congrArg ModeId.mk hvalue

theorem TellsHandle.eq (hkey : TellsHandle key) (distinct : (modes.map (·.id)).Nodup)
    (hm : m ∈ modes) (hn : n ∈ modes) (h : key m = key n) : m = n :=
  List.inj_on_of_nodup_map distinct hm hn (hkey m n h)

/-! ## The greatest key -/

theorem key_le_foldl_better (key : Mode → List Int) (best : Mode) (rest : List Mode) :
    ∀ n ∈ best :: rest, key n ≤ key
      (rest.foldl (fun best n => if keyBelow (key n) (key best) then best else n) best) := by
  induction rest generalizing best with
  | nil => simp
  | cons m rest ih =>
      intro n hn
      rw [List.foldl_cons]
      by_cases hbelow : keyBelow (key m) (key best) = true
      · rw [if_pos hbelow]
        have hm : key m ≤ key best := le_of_lt (keyBelow_iff.mp hbelow)
        rcases List.mem_cons.mp hn with rfl | hn
        · exact ih n n List.mem_cons_self
        · rcases List.mem_cons.mp hn with rfl | hn
          · exact hm.trans (ih best best List.mem_cons_self)
          · exact ih best n (List.mem_cons_of_mem best hn)
      · rw [if_neg hbelow]
        have hbest : key best ≤ key m := not_lt.mp fun h => hbelow (keyBelow_iff.mpr h)
        rcases List.mem_cons.mp hn with rfl | hn
        · exact hbest.trans (ih m m List.mem_cons_self)
        · exact ih m n hn

/-- The mode with the greatest key is found. -/
theorem greatest?_eq_some_iff (hkey : TellsHandle key) (distinct : (modes.map (·.id)).Nodup) :
    greatest? key modes = some m ↔ m ∈ modes ∧ ∀ n ∈ modes, key n ≤ key m := by
  cases modes with
  | nil => simp [greatest?]
  | cons first rest =>
      have hmem := foldl_better_mem key first rest
      have hmax := key_le_foldl_better key first rest
      rw [greatest?, Option.some.injEq]
      constructor
      · rintro rfl
        exact ⟨hmem, hmax⟩
      · rintro ⟨hm, hall⟩
        exact hkey.eq distinct hmem hm (le_antisymm (hall _ hmem) (hmax m hm))

theorem greatest?_perm (hkey : TellsHandle key) (distinct : (modes.map (·.id)).Nodup)
    (h : others.Perm modes) : greatest? key others = greatest? key modes := by
  have hothers : (others.map (·.id)).Nodup := (h.map _).nodup_iff.mpr distinct
  apply Option.ext
  intro m
  rw [greatest?_eq_some_iff hkey hothers, greatest?_eq_some_iff hkey distinct]
  simp only [h.mem_iff]

/-! ## The best mode -/

theorem optimal_eq_none_iff (fastest : Bool) (modes : List Mode) :
    optimal fastest modes = none ↔ modes = [] := by
  constructor
  · intro hnone
    by_contra hne
    have hsome := isSome_optimal fastest hne
    simp [hnone] at hsome
  · rintro rfl
    rfl

/-- Without a preferred mode the size decides. -/
theorem optimal_of_unpreferred (h : ∀ p ∈ modes, p.preferred = false) (fastest : Bool) :
    optimal fastest modes = greatest? sizeKey modes := by
  have hfind : modes.find? (·.preferred) = none := by
    rw [List.find?_eq_none]
    intro p hp
    simp [h p hp]
  rw [optimal, hfind]

/-- The preferred mode is the best one, or one of the same resolution is. -/
theorem optimal_of_preferred
    (single : ∀ p ∈ modes, ∀ q ∈ modes, p.preferred = true → q.preferred = true → p = q)
    (hp : p ∈ modes) (hpreferred : p.preferred = true) (fastest : Bool) :
    optimal fastest modes =
      if fastest then greatest? rateKey (modes.filter (sameResolution p)) else some p := by
  obtain ⟨q, hfind⟩ : ∃ q, modes.find? (·.preferred) = some q :=
    Option.isSome_iff_exists.mp (List.find?_isSome.mpr ⟨p, hp, hpreferred⟩)
  obtain rfl : q = p := single q (List.mem_of_find?_eq_some hfind) p hp
    (List.find?_some hfind :) hpreferred
  rw [optimal, hfind]

theorem mem_sameResolution : n ∈ modes.filter (sameResolution p) ↔
    n ∈ modes ∧ n.width = p.width ∧ n.height = p.height := by
  simp only [List.mem_filter, sameResolution, Bool.and_eq_true, beq_iff_eq]
  rw [@eq_comm _ p.width, @eq_comm _ p.height]

section Distinct

variable (distinct : (modes.map (·.id)).Nodup)
  (single : ∀ p ∈ modes, ∀ q ∈ modes, p.preferred = true → q.preferred = true → p = q)

include distinct

theorem distinct_sameResolution (p : Mode) :
    ((modes.filter (sameResolution p)).map (·.id)).Nodup :=
  distinct.sublist (List.filter_sublist.map _)

/-- Without a preferred mode all others come behind the best one in size. -/
theorem behind_of_optimal (h : ∀ p ∈ modes, p.preferred = false) {fastest : Bool}
    (hm : optimal fastest modes = some m) (hn : n ∈ modes) (hne : n ≠ m) : n.Behind m := by
  rw [optimal_of_unpreferred h, greatest?_eq_some_iff tellsHandle_sizeKey distinct] at hm
  have hother : sizeKey n ≠ sizeKey m :=
    fun heq => hne (tellsHandle_sizeKey.eq distinct hn hm.1 heq)
  exact sizeKey_lt_iff.mp (lt_of_le_of_ne (hm.2 n hn) hother)

include single

/-- The fastest mode of the preferred resolution is the one whose rate key is greatest there. -/
theorem optimal_fastest_iff (hp : p ∈ modes) (hpreferred : p.preferred = true) :
    optimal true modes = some m ↔
      m ∈ modes.filter (sameResolution p) ∧
        ∀ n ∈ modes.filter (sameResolution p), rateKey n ≤ rateKey m := by
  rw [optimal_of_preferred single hp hpreferred, if_pos rfl]
  exact greatest?_eq_some_iff tellsHandle_rateKey (distinct_sameResolution distinct p)

/-- Which mode is the best does not depend on the order of the modes. -/
theorem optimal_perm (fastest : Bool) (h : others.Perm modes) :
    optimal fastest others = optimal fastest modes := by
  by_cases hpreferred : ∃ p ∈ modes, p.preferred = true
  · obtain ⟨p, hp, hpreferred⟩ := hpreferred
    have hothers : ∀ p ∈ others, ∀ q ∈ others, p.preferred = true → q.preferred = true → p = q :=
      fun p hp q hq => single p (h.mem_iff.mp hp) q (h.mem_iff.mp hq)
    rw [optimal_of_preferred single hp hpreferred,
      optimal_of_preferred hothers (h.mem_iff.mpr hp) hpreferred,
      greatest?_perm tellsHandle_rateKey (distinct_sameResolution distinct p) (h.filter _)]
  · have hnone : ∀ p ∈ modes, p.preferred = false := by simpa using hpreferred
    rw [optimal_of_unpreferred hnone,
      optimal_of_unpreferred fun p hp => hnone p (h.mem_iff.mp hp)]
    exact greatest?_perm tellsHandle_sizeKey distinct h

end Distinct

/-- There is a best mode unless there is none at all, and it does not depend on the order of the
modes. It is the preferred mode, or the fastest of its resolution if that is wanted. Without a
preferred mode all others come behind it in size. -/
theorem optimal_is_best (distinct : (modes.map (·.id)).Nodup)
    (single : ∀ p ∈ modes, ∀ q ∈ modes, p.preferred = true → q.preferred = true → p = q)
    (fastest : Bool) :
    (optimal fastest modes = none ↔ modes = []) ∧
      (∀ m, optimal fastest modes = some m → m ∈ modes) ∧
      (∀ others : List Mode, others.Perm modes →
        optimal fastest others = optimal fastest modes) ∧
      (∀ p ∈ modes, p.preferred = true → optimal false modes = some p) ∧
      (∀ p ∈ modes, p.preferred = true → ∃ m, optimal true modes = some m ∧
        m.width = p.width ∧ m.height = p.height ∧
        (∀ n ∈ modes, n.width = p.width → n.height = p.height → n.refresh ≤ m.refresh) ∧
        ((∀ n ∈ modes, n.width = p.width → n.height = p.height → n.refresh ≤ p.refresh) →
          m = p)) ∧
      ((∀ p ∈ modes, p.preferred = false) →
        ∀ m, optimal fastest modes = some m → ∀ n ∈ modes, n ≠ m → n.Behind m) := by
  refine ⟨optimal_eq_none_iff fastest modes, fun m => mem_of_optimal,
    fun others h => optimal_perm distinct single fastest h, ?_, ?_,
    fun h m hm n hn hne => behind_of_optimal distinct h hm hn hne⟩
  · intro p hp hpreferred
    exact optimal_of_preferred single hp hpreferred false
  · intro p hp hpreferred
    obtain ⟨m, hm⟩ := Option.isSome_iff_exists.mp (isSome_optimal true (List.ne_nil_of_mem hp))
    obtain ⟨hmem, hmax⟩ := (optimal_fastest_iff distinct single hp hpreferred).mp hm
    obtain ⟨hmodes, hwidth, hheight⟩ := mem_sameResolution.mp hmem
    refine ⟨m, hm, hwidth, hheight, ?_, ?_⟩
    · intro n hn hw hh
      have hle := rateKey_le_iff.mp (hmax n (mem_sameResolution.mpr ⟨hn, hw, hh⟩))
      omega
    · intro hfastest
      have hslow := hfastest m hmodes hwidth hheight
      have hle := rateKey_le_iff.mp (hmax p (mem_sameResolution.mpr ⟨hp, rfl, rfl⟩))
      have hmark : m.preferred = true := by
        rcases hle with hlt | ⟨-, hmark | hmark⟩
        · omega
        · exact hmark.2
        · exact hmark.1 ▸ hpreferred
      exact single m hmodes p hp hmark hpreferred

/-- Five modes of a display, the third of which is preferred. The fourth is faster at the same
resolution, and the fifth as fast as the fourth. -/
def fiveModes : List Mode :=
  [⟨⟨1⟩, 3840, 2160, 60000, false⟩, ⟨⟨2⟩, 1920, 1080, 240000, false⟩,
    ⟨⟨3⟩, 2560, 1440, 60000, true⟩, ⟨⟨4⟩, 2560, 1440, 144000, false⟩,
    ⟨⟨5⟩, 2560, 1440, 144000, false⟩]

theorem optimal_is_best_fiveModes :
    (fiveModes.map (·.id)).Nodup ∧
      (∀ p ∈ fiveModes, ∀ q ∈ fiveModes, p.preferred = true → q.preferred = true → p = q) ∧
      optimal false fiveModes = some ⟨⟨3⟩, 2560, 1440, 60000, true⟩ ∧
      optimal true fiveModes = some ⟨⟨4⟩, 2560, 1440, 144000, false⟩ ∧
      optimal true fiveModes.reverse = optimal true fiveModes := by
  have distinct : (fiveModes.map (·.id)).Nodup := by decide
  have single : ∀ p ∈ fiveModes, ∀ q ∈ fiveModes,
      p.preferred = true → q.preferred = true → p = q := by decide
  exact ⟨distinct, single, by decide, by decide,
    (optimal_is_best distinct single true).2.2.1 _ (List.reverse_perm fiveModes)⟩

end OutputArranger.Mode
