import OutputArranger.Proofs.Layout.Targets

/-!
# Which mode a head shall have

A head that shall be on shall have a mode that it offers and that the compositor has not refused. As
long as there is such a mode, the want of a mode is no reason to switch the head off.
-/

namespace OutputArranger

namespace Mode

theorem foldl_better_mem (key : Mode → List Int) (best : Mode) (rest : List Mode) :
    rest.foldl (fun best n => if keyBelow (key n) (key best) then best else n) best ∈
      best :: rest := by
  induction rest generalizing best with
  | nil => simp
  | cons n rest ih =>
      rw [List.foldl_cons]
      by_cases hbelow : keyBelow (key n) (key best) = true
      · have hmem := ih best
        rw [if_pos hbelow]
        rw [List.mem_cons] at hmem ⊢
        exact hmem.imp_right (List.mem_cons_of_mem n)
      · rw [if_neg hbelow]
        exact List.mem_cons_of_mem best (ih n)

theorem mem_of_greatest? {key : Mode → List Int} {modes : List Mode} {m : Mode}
    (h : greatest? key modes = some m) : m ∈ modes := by
  cases modes with
  | nil => simp [greatest?] at h
  | cons first rest =>
      obtain rfl := Option.some.inj h
      exact foldl_better_mem key first rest

theorem isSome_greatest? (key : Mode → List Int) {modes : List Mode} (h : modes ≠ []) :
    (greatest? key modes).isSome = true := by
  cases modes with
  | nil => exact absurd rfl h
  | cons first rest => rfl

/-- The best mode is one of the given modes. -/
theorem mem_of_optimal {fastest : Bool} {modes : List Mode} {m : Mode}
    (h : optimal fastest modes = some m) : m ∈ modes := by
  unfold optimal at h
  split at h
  · exact mem_of_greatest? h
  · rename_i p hp
    split at h
    · exact (List.mem_filter.mp (mem_of_greatest? h)).1
    · obtain rfl := Option.some.inj h
      exact List.mem_of_find?_eq_some hp

/-- Among some modes there is a best one. -/
theorem isSome_optimal (fastest : Bool) {modes : List Mode} (h : modes ≠ []) :
    (optimal fastest modes).isSome = true := by
  unfold optimal
  split
  · exact isSome_greatest? sizeKey h
  · rename_i p hp
    split
    · have hmem : p ∈ modes.filter (sameResolution p) :=
        List.mem_filter.mpr ⟨List.mem_of_find?_eq_some hp, by simp [sameResolution]⟩
      exact isSome_greatest? rateKey (List.ne_nil_of_mem hmem)
    · rfl

end Mode

namespace Layout

variable {c : Config} {sole : Bool} {heads : List Head} {h : Head}

theorem exists_mode_of_wanted (hon : (wanted c sole h).enabled = true) :
    ∃ m ∈ h.usableModes, (wanted c sole h).mode = some m.id := by
  unfold wanted at hon ⊢
  split
  · rename_i hoff
    simp [hoff] at hon
  · rename_i hmay
    rw [if_neg hmay] at hon
    cases hbest : bestMode c h with
    | none => simp [hbest] at hon
    | some best => exact ⟨best, Mode.mem_of_optimal hbest, rfl⟩

/-- Whether a head shall be on is up to the user and the lid as long as it has a usable mode. -/
theorem enabled_wanted (c : Config) (sole : Bool) (hmodes : h.usableModes ≠ []) :
    (wanted c sole h).enabled = mayBeOn c sole h := by
  obtain ⟨best, hbest⟩ := Option.isSome_iff_exists.mp
    (Mode.isSome_optimal (selectedByAny c.fastest h) hmodes)
  have hbest : bestMode c h = some best := hbest
  unfold wanted
  cases hmay : mayBeOn c sole h <;> simp [hbest]

theorem mayBeOn_of_wanted (hon : (wanted c sole h).enabled = true) : mayBeOn c sole h = true := by
  by_contra hoff
  rw [Bool.not_eq_true] at hoff
  simp [wanted, hoff] at hon

/-- A head shall change its mode if it may be on and the best of its modes is another one. -/
theorem changesMode_wanted (c : Config) (sole : Bool) (h : Head) :
    ((wanted c sole h).enabled &&
        ((wanted c sole h).mode.isSome && (wanted c sole h).mode != h.currentMode)) =
      (mayBeOn c sole h && (bestMode c h).any fun m => some m.id != h.currentMode) := by
  unfold wanted
  cases mayBeOn c sole h with
  | false => rfl
  | true => cases bestMode c h <;> rfl

/-- The place that a head gets has no part in what else it shall become. -/
theorem view_targeted {α : Type} {g : Desired → α}
    (hg : ∀ (d : Desired) (x y : Int), g { d with x, y } = g d) (hp : h.pending = Pending.none)
    (c : Config) (heads : List Head) :
    g (targeted c heads h).desired = g (wanted c (isSole heads) h) := by
  have hdesired := desired_desireHead hp c (isSole heads)
  have hany : (desireHead c (isSole heads) h).pending.any = false := by
    rw [pending_desireHead, hp]
    rfl
  unfold targeted
  split
  · rw [move, hany]
    exact (hg _ _ _).trans (congrArg g hdesired)
  · exact congrArg g hdesired

/-- A head that shall be on shall have one of its usable modes. -/
theorem Aimed.exists_mode (ha : Aimed c heads) (hh : h ∈ heads) (hon : h.desired.enabled = true) :
    ∃ m ∈ h.usableModes, h.desired.mode = some m.id := by
  have hp := ha.idle h hh
  have henabled := view_targeted (g := Desired.enabled) (fun _ _ _ => rfl) hp c heads
  have hmode := view_targeted (g := Desired.mode) (fun _ _ _ => rfl) hp c heads
  rw [ha.targeted hh] at henabled hmode
  rw [hmode]
  exact exists_mode_of_wanted (henabled.symm.trans hon)

/-- A head that shall not be on keeps whatever it has. -/
theorem Aimed.kept (ha : Aimed c heads) (hh : h ∈ heads) (hoff : h.desired.enabled = false) :
    h.desired = Layout.kept h := by
  have hdesired := ha.desired_targeted (f := fun h => h)
    (fun _ _ => ⟨rfl, rfl, rfl, rfl, rfl, rfl, rfl, rfl, rfl⟩) hh
  rw [List.map_id', ha.targeted hh, hoff] at hdesired
  simpa using hdesired

end Layout

end OutputArranger
