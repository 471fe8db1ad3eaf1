import OutputArranger.Config.Command
import OutputArranger.Proofs.Config.Repair

/-!
# What commands change

A command to a configuration without issues is refused exactly for what it asks itself: nothing at
all, something that is wrong, or the removal of what is not there. Else it changes the one setting
that it names, the result has no issues either, and what was added can be taken back. None of this
depends on which patterns are bad.
-/

namespace OutputArranger

/-! ## Tables of entries with keys -/

section Entries

variable {α : Type} (key : α → String) (entry : α) {old new : List α}

/-- The entries after one more was put in: in place of the first one with its key, or at the end. -/
def PutIn (old new : List α) : Prop :=
  (∃ before former after, old = before ++ former :: after ∧ key former = key entry ∧
      (∀ a ∈ before, key a ≠ key entry) ∧ new = before ++ entry :: after) ∨
    ((∀ a ∈ old, key a ≠ key entry) ∧ new = old ++ [entry])

variable {key entry}

theorem updateFirst_eq_split {p : α → Bool} (f : α → α) {xs : List α} (h : xs.any p = true) :
    ∃ before former after, xs = before ++ former :: after ∧ p former = true ∧
      (∀ a ∈ before, p a = false) ∧ updateFirst p f xs = before ++ f former :: after := by
  induction xs with
  | nil => exact absurd h (by simp)
  | cons a rest ih =>
      cases ha : p a with
      | true => exact ⟨[], a, rest, rfl, ha, nofun, by simp [updateFirst, ha]⟩
      | false =>
          obtain ⟨before, former, after, hxs, hformer, hbefore, hnew⟩ :=
            ih (by simpa [ha] using h)
          refine ⟨a :: before, former, after, by rw [hxs]; rfl, hformer, ?_, ?_⟩
          · exact List.forall_mem_cons.mpr ⟨ha, hbefore⟩
          · simp only [updateFirst, ha, Bool.false_eq_true, if_false, hnew, List.cons_append]

theorem putIn_updateFirst {f : α → α} (hf : ∀ a, key a = key entry → f a = entry) (old : List α) :
    PutIn key entry old
      (if old.any fun a => decide (key a = key entry) then
        updateFirst (fun a => decide (key a = key entry)) f old
      else old ++ [entry]) := by
  split
  · rename_i hany
    obtain ⟨before, former, after, hold, hformer, hbefore, hnew⟩ := updateFirst_eq_split f hany
    have hkey := of_decide_eq_true hformer
    refine .inl ⟨before, former, after, hold, hkey, fun a ha => ?_, ?_⟩
    · exact of_decide_eq_false (hbefore a ha)
    · rw [hnew, hf former hkey]
  · rename_i hany
    refine .inr ⟨fun a ha hkey => hany ?_, rfl⟩
    exact List.any_eq_true.mpr ⟨a, ha, decide_eq_true hkey⟩

/-- What holds of all entries holds of them afterwards exactly if it holds of the new one. -/
theorem PutIn.forall_mem_iff (h : PutIn key entry old new) {P : α → Prop} (hold : ∀ a ∈ old, P a) :
    (∀ a ∈ new, P a) ↔ P entry := by
  obtain ⟨before, former, after, rfl, _, _, rfl⟩ | ⟨_, rfl⟩ := h
  · rw [List.forall_mem_append, List.forall_mem_cons] at hold ⊢
    exact ⟨fun h => h.2.1, fun h => ⟨hold.1, h, hold.2.2⟩⟩
  · rw [List.forall_mem_append, List.forall_mem_singleton]
    exact and_iff_right hold

/-- An entry under a new key can be taken back by its key. -/
theorem PutIn.filter_eq (h : PutIn key entry old new) (hnew : ∀ a ∈ old, key a ≠ key entry) :
    (new.filter fun a => decide (key a ≠ key entry)) = old := by
  obtain ⟨before, former, after, rfl, hformer, _, rfl⟩ | ⟨_, rfl⟩ := h
  · exact absurd hformer (hnew former (List.mem_append_right _ List.mem_cons_self))
  · rw [List.filter_append, List.filter_eq_self.mpr fun a ha => decide_eq_true (hnew a ha)]
    simp

theorem PutIn.mem (h : PutIn key entry old new) : entry ∈ new := by
  obtain ⟨before, former, after, rfl, _, _, rfl⟩ | ⟨_, rfl⟩ := h
  · exact List.mem_append_right _ List.mem_cons_self
  · exact List.mem_append_right _ List.mem_cons_self

end Entries

theorem filter_ne_insertNew {p : String} {xs : List String} (h : p ∉ xs) :
    ((insertNew p xs).filter fun q => decide (q ≠ p)) = xs := by
  have hkept : (xs.filter fun q => decide (q ≠ p)) = xs :=
    List.filter_eq_self.mpr fun q hq => decide_eq_true fun hqp => h (hqp ▸ hq)
  rw [insertNew, if_neg h, List.filter_append, hkept]
  simp

namespace Config

variable (issue? : String → Option PatternIssue) (c : Config)

/-! ## What is asked for -/

/-- The configuration after a command, or why it is refused, when `issue?` tells what is wrong with
a pattern. -/
def applyBy (command : ConfigCommand) : Except CommandRefusal Config :=
  match c.refusal? command with
  | some r => .error r
  | none =>
      let new := c.edited command
      match new.issuesBy issue? with
      | [] => .ok new
      | found => .error (.issues found)

theorem apply_eq_applyBy (command : ConfigCommand) :
    c.apply command = c.applyBy NamePattern.issue? command := rfl

/-- What is wrong with a command to a configuration without issues. -/
def Refuses : ConfigCommand → Prop
  | .setArrangeAlign arrange align =>
      (arrange = none ∧ align = none) ∨
        ∃ a, align = some a ∧ a.fits (arrange.getD c.arrange) = false
  | .setOrder patterns => ∃ p ∈ patterns, issue? p ≠ none
  | .setAutoScale _ => False
  | .setScale entry => entry.scale.isNonPositive = true ∨ issue? entry.pattern ≠ none
  | .deleteScale p => ∀ s ∈ c.scales, s.pattern ≠ p
  | .setTransform entry => issue? entry.pattern ≠ none
  | .deleteTransform p => ∀ t ∈ c.transforms, t.pattern ≠ p
  | .addFastest p => issue? p ≠ none
  | .deleteFastest p => p ∉ c.fastest
  | .addDisabled p => issue? p ≠ none
  | .deleteDisabled p => p ∉ c.disabled
  | .setLaptopPrefix _ => False
  | .setThreshold _ => False

/-- How a configuration differs after a command: in the setting that the command names. An alignment
that was not given only makes way for a new arrangement. -/
def Changes (d : Config) : ConfigCommand → Prop
  | .setArrangeAlign arrange align =>
      d = { c with arrange := arrange.getD c.arrange, align := d.align } ∧
        d.align = align.getD
          (if c.align.fits d.arrange then c.align else .defaultFor d.arrange)
  | .setOrder patterns => d = { c with order := patterns }
  | .setAutoScale on => d = { c with autoScale := on }
  | .setScale entry =>
      d = { c with scales := d.scales } ∧ PutIn UserScale.pattern entry c.scales d.scales
  | .deleteScale p => d = { c with scales := c.scales.filter (·.pattern ≠ p) }
  | .setTransform entry =>
      d = { c with transforms := d.transforms } ∧
        PutIn UserTransform.pattern entry c.transforms d.transforms
  | .deleteTransform p => d = { c with transforms := c.transforms.filter (·.pattern ≠ p) }
  | .addFastest p => d = { c with fastest := insertNew p c.fastest }
  | .deleteFastest p => d = { c with fastest := c.fastest.filter (· ≠ p) }
  | .addDisabled p => d = { c with disabled := insertNew p c.disabled }
  | .deleteDisabled p => d = { c with disabled := c.disabled.filter (· ≠ p) }
  | .setLaptopPrefix start => d = { c with laptopPrefix := start }
  | .setThreshold threshold => d = { c with threshold := threshold }

/-- A command that adds what is not there yet, and the one that takes it back. -/
inductive TakesBack : ConfigCommand → ConfigCommand → Prop
  | scale (entry : UserScale) : (∀ s ∈ c.scales, s.pattern ≠ entry.pattern) →
      TakesBack (.setScale entry) (.deleteScale entry.pattern)
  | transform (entry : UserTransform) : (∀ t ∈ c.transforms, t.pattern ≠ entry.pattern) →
      TakesBack (.setTransform entry) (.deleteTransform entry.pattern)
  | fastest (p : String) : p ∉ c.fastest → TakesBack (.addFastest p) (.deleteFastest p)
  | disabled (p : String) : p ∉ c.disabled → TakesBack (.addDisabled p) (.deleteDisabled p)

/-- What is said of a command to a configuration, if `apply` is how commands are followed. -/
structure Follows (apply : Config → ConfigCommand → Except CommandRefusal Config)
    (command : ConfigCommand) : Prop where
  refused : (∃ r, apply c command = .error r) ↔ c.Refuses issue? command
  sound : ∀ d, apply c command = .ok d → d.issuesBy issue? = []
  changed : ∀ d, apply c command = .ok d → c.Changes d command
  takenBack : ∀ d back, apply c command = .ok d → c.TakesBack command back → apply d back = .ok c

variable {issue? c} {command : ConfigCommand} {d : Config}

/-! ## One setting after the other -/

section Settings

variable (hc : c.Sound issue?)
include hc

theorem Sound.align_iff {arrange : Arrange} {align : Align} :
    ({ c with arrange, align } : Config).Sound issue? ↔ align.fits arrange = true :=
  ⟨Sound.align, fun h => ⟨h, hc.order, hc.fastest, hc.disabled, hc.scales, hc.transforms⟩⟩

theorem Sound.order_iff {order : List String} :
    ({ c with order } : Config).Sound issue? ↔ ∀ p ∈ order, issue? p = none :=
  ⟨Sound.order, fun h => ⟨hc.align, h, hc.fastest, hc.disabled, hc.scales, hc.transforms⟩⟩

theorem Sound.fastest_iff {fastest : List String} :
    ({ c with fastest } : Config).Sound issue? ↔ ∀ p ∈ fastest, issue? p = none :=
  ⟨Sound.fastest, fun h => ⟨hc.align, hc.order, h, hc.disabled, hc.scales, hc.transforms⟩⟩

theorem Sound.disabled_iff {disabled : List String} :
    ({ c with disabled } : Config).Sound issue? ↔ ∀ p ∈ disabled, issue? p = none :=
  ⟨Sound.disabled, fun h => ⟨hc.align, hc.order, hc.fastest, h, hc.scales, hc.transforms⟩⟩

theorem Sound.scales_iff {scales : List UserScale} :
    ({ c with scales } : Config).Sound issue? ↔
      ∀ s ∈ scales, s.scale.isNonPositive = false ∧ issue? s.pattern = none :=
  ⟨Sound.scales, fun h => ⟨hc.align, hc.order, hc.fastest, hc.disabled, h, hc.transforms⟩⟩

theorem Sound.transforms_iff {transforms : List UserTransform} :
    ({ c with transforms } : Config).Sound issue? ↔ ∀ t ∈ transforms, issue? t.pattern = none :=
  ⟨Sound.transforms, fun h => ⟨hc.align, hc.order, hc.fastest, hc.disabled, hc.scales, h⟩⟩

end Settings

theorem alignAfter_fits (arrange : Arrange) (align : Align) :
    (alignAfter arrange align).fits arrange = true := by
  unfold alignAfter
  split
  · assumption
  · exact Align.defaultFor_fits arrange

theorem putIn_putScale (entry : UserScale) (scales : List UserScale) :
    PutIn UserScale.pattern entry scales (putScale entry scales) :=
  putIn_updateFirst (fun s (hs : s.pattern = entry.pattern) =>
    show UserScale.mk s.pattern entry.scale = entry by rw [hs]) scales

theorem putIn_putTransform (entry : UserTransform) (transforms : List UserTransform) :
    PutIn UserTransform.pattern entry transforms (putTransform entry transforms) :=
  putIn_updateFirst (fun t (ht : t.pattern = entry.pattern) =>
    show UserTransform.mk t.pattern entry.transform = entry by rw [ht]) transforms

theorem forall_mem_insertNew_iff {p : String} {xs : List String} {P : String → Prop}
    (hxs : ∀ q ∈ xs, P q) : (∀ q ∈ insertNew p xs, P q) ↔ P p := by
  constructor
  · exact fun h => h p (mem_insertNew.mpr (.inl rfl))
  · rintro hp q hq
    obtain rfl | hq := mem_insertNew.mp hq
    · exact hp
    · exact hxs q hq

theorem forall_mem_filter {α : Type} {p : α → Bool} {xs : List α} {P : α → Prop}
    (hxs : ∀ a ∈ xs, P a) : ∀ a ∈ xs.filter p, P a := fun a ha => hxs a (List.mem_filter.mp ha).1

/-- A configuration without issues gets some from a command, or there is nothing to change, exactly
for what is wrong with the command. -/
theorem Sound.edited_iff (hc : c.Sound issue?) (command : ConfigCommand) :
    c.refusal? command = none ∧ (c.edited command).Sound issue? ↔ ¬ c.Refuses issue? command := by
  -- Issues can only come from the setting that the command names; the others are as they were.
  cases command with
  | setArrangeAlign arrange align =>
      have hedited : (c.edited (.setArrangeAlign arrange align)).Sound issue? ↔ _ := hc.align_iff
      rw [hedited]
      rcases arrange with _ | r <;> rcases align with _ | a
      · simp [refusal?, Refuses]
      · simp [refusal?, Refuses]
      · simp [refusal?, Refuses, alignAfter_fits]
      · simp [refusal?, Refuses]
  | setOrder patterns =>
      have hedited : (c.edited (.setOrder patterns)).Sound issue? ↔ _ := hc.order_iff
      simp [refusal?, Refuses, hedited]
  | setAutoScale on => exact iff_of_true ⟨rfl, { hc with }⟩ id
  | setScale entry =>
      have hedited : (c.edited (.setScale entry)).Sound issue? ↔ _ :=
        hc.scales_iff.trans ((putIn_putScale entry c.scales).forall_mem_iff hc.scales)
      simp [refusal?, Refuses, hedited]
  | deleteScale p =>
      have hedited : (c.edited (.deleteScale p)).Sound issue? :=
        hc.scales_iff.mpr (forall_mem_filter hc.scales)
      simp [refusal?, Refuses, hedited]
  | setTransform entry =>
      have hedited : (c.edited (.setTransform entry)).Sound issue? ↔ _ :=
        hc.transforms_iff.trans
          ((putIn_putTransform entry c.transforms).forall_mem_iff hc.transforms)
      simp [refusal?, Refuses, hedited]
  | deleteTransform p =>
      have hedited : (c.edited (.deleteTransform p)).Sound issue? :=
        hc.transforms_iff.mpr (forall_mem_filter hc.transforms)
      simp [refusal?, Refuses, hedited]
  | addFastest p =>
      have hedited : (c.edited (.addFastest p)).Sound issue? ↔ _ :=
        hc.fastest_iff.trans (forall_mem_insertNew_iff hc.fastest)
      simp [refusal?, Refuses, hedited]
  | deleteFastest p =>
      have hedited : (c.edited (.deleteFastest p)).Sound issue? :=
        hc.fastest_iff.mpr (forall_mem_filter hc.fastest)
      simp [refusal?, Refuses, hedited]
  | addDisabled p =>
      have hedited : (c.edited (.addDisabled p)).Sound issue? ↔ _ :=
        hc.disabled_iff.trans (forall_mem_insertNew_iff hc.disabled)
      simp [refusal?, Refuses, hedited]
  | deleteDisabled p =>
      have hedited : (c.edited (.deleteDisabled p)).Sound issue? :=
        hc.disabled_iff.mpr (forall_mem_filter hc.disabled)
      simp [refusal?, Refuses, hedited]
  | setLaptopPrefix start => exact iff_of_true ⟨rfl, { hc with }⟩ id
  | setThreshold threshold => exact iff_of_true ⟨rfl, { hc with }⟩ id

theorem applyBy_eq_ok_iff :
    c.applyBy issue? command = .ok d ↔
      (c.refusal? command = none ∧ (c.edited command).Sound issue?) ∧ c.edited command = d := by
  unfold applyBy
  rw [← issuesBy_eq_nil_iff]
  cases c.refusal? command with
  | some r => simp
  | none =>
      dsimp only
      cases (c.edited command).issuesBy issue? <;> simp

/-- What a command leads to has no issues. -/
theorem sound_of_applyBy (h : c.applyBy issue? command = .ok d) : d.Sound issue? := by
  obtain ⟨⟨_, hsound⟩, rfl⟩ := applyBy_eq_ok_iff.mp h
  exact hsound

theorem applyBy_eq_error_iff (hc : c.Sound issue?) :
    (∃ r, c.applyBy issue? command = .error r) ↔ c.Refuses issue? command := by
  have hedited := hc.edited_iff command
  cases h : c.applyBy issue? command with
  | error r =>
      refine iff_of_true ⟨r, rfl⟩ (Classical.byContradiction fun hgood => ?_)
      rw [applyBy_eq_ok_iff.mpr ⟨hedited.mpr hgood, rfl⟩] at h
      contradiction
  | ok d => exact iff_of_false nofun (hedited.mp (applyBy_eq_ok_iff.mp h).1)

theorem changes_edited (hr : c.refusal? command = none) : c.Changes (c.edited command) command := by
  cases command with
  | setArrangeAlign arrange align =>
      refine ⟨rfl, ?_⟩
      rcases arrange with _ | r <;> rcases align with _ | a
      · exact absurd hr (by simp [refusal?])
      · rfl
      · rfl
      · rfl
  | setScale entry => exact ⟨rfl, putIn_putScale entry c.scales⟩
  | setTransform entry => exact ⟨rfl, putIn_putTransform entry c.transforms⟩
  | _ => rfl

/-- What was added is there to be taken back, and then all is as before. -/
theorem TakesBack.edited {back : ConfigCommand} (h : c.TakesBack command back) :
    (c.edited command).refusal? back = none ∧ (c.edited command).edited back = c := by
  cases h with
  | scale entry hnew =>
      have hput := putIn_putScale entry c.scales
      constructor
      · exact if_pos (List.any_eq_true.mpr ⟨entry, hput.mem, decide_eq_true rfl⟩)
      · exact congrArg (fun scales => { c with scales }) (hput.filter_eq hnew)
  | transform entry hnew =>
      have hput := putIn_putTransform entry c.transforms
      constructor
      · exact if_pos (List.any_eq_true.mpr ⟨entry, hput.mem, decide_eq_true rfl⟩)
      · exact congrArg (fun transforms => { c with transforms }) (hput.filter_eq hnew)
  | fastest p hnew =>
      constructor
      · exact if_pos (mem_insertNew.mpr (.inl rfl))
      · exact congrArg (fun fastest => { c with fastest }) (filter_ne_insertNew hnew)
  | disabled p hnew =>
      constructor
      · exact if_pos (mem_insertNew.mpr (.inl rfl))
      · exact congrArg (fun disabled => { c with disabled }) (filter_ne_insertNew hnew)

theorem follows_applyBy (hc : c.issuesBy issue? = []) (command : ConfigCommand) :
    c.Follows issue? (applyBy issue?) command where
  refused := applyBy_eq_error_iff (issuesBy_eq_nil_iff.mp hc)
  sound d hd := issuesBy_eq_nil_iff.mpr (sound_of_applyBy hd)
  changed d hd := by
    obtain ⟨⟨hr, _⟩, rfl⟩ := applyBy_eq_ok_iff.mp hd
    exact changes_edited hr
  takenBack d back hd hback := by
    obtain ⟨_, rfl⟩ := applyBy_eq_ok_iff.mp hd
    obtain ⟨hr, hedited⟩ := hback.edited
    refine applyBy_eq_ok_iff.mpr ⟨⟨hr, ?_⟩, hedited⟩
    rw [hedited]
    exact issuesBy_eq_nil_iff.mp hc

theorem exists_arranged (hc : c.issuesBy issue? = []) (arrange : Arrange) :
    ∃ d, c.applyBy issue? (.setArrangeAlign (some arrange) none) = .ok d := by
  have hgood : ¬ c.Refuses issue? (.setArrangeAlign (some arrange) none) := by simp [Refuses]
  exact ⟨_, applyBy_eq_ok_iff.mpr
    ⟨((issuesBy_eq_nil_iff.mp hc).edited_iff _).mpr hgood, rfl⟩⟩

/-- Commands to a configuration without issues: each is refused exactly for what is wrong with it,
and else changes the setting that it names, leaves no issues and can be taken back if it added
something. An arrangement on its own is never refused. It would be so if other patterns were bad. -/
theorem commands_followed (c : Config) :
    (c.issues = [] →
      (∀ command, c.Follows NamePattern.issue? apply command) ∧
        ∀ arrange, ∃ d, c.apply (.setArrangeAlign (some arrange) none) = .ok d) ∧
      ∀ issue? : String → Option PatternIssue, c.issuesBy issue? = [] →
        (∀ command, c.Follows issue? (applyBy issue?) command) ∧
          ∀ arrange, ∃ d, c.applyBy issue? (.setArrangeAlign (some arrange) none) = .ok d :=
  ⟨fun hc => ⟨follows_applyBy hc, exists_arranged hc⟩,
    fun _ hc => ⟨follows_applyBy hc, exists_arranged hc⟩⟩

/-- Two entries of one name, an expression, and an alignment that does not fit every arrangement. -/
def twiceScaled : Config :=
  { default with
    align := .bottom
    order := ["!DP|HDMI", "DP-1", "DP-1"]
    scales := [⟨"DP-1", .ofNat 2⟩, ⟨"HDMI", .infinity false⟩, ⟨"DP-1", .ofNat 1⟩] }

/-- A scale of zero for a name that has one is refused, a new name is added and deleted again, and a
column does without the alignment at the bottom. In the second part no expression is bad. -/
theorem commands_followed_twiceScaled :
    (twiceScaled.issues = [] ∧
      (∃ r, twiceScaled.apply (.setScale ⟨"DP-1", .ofRank true 0⟩) = .error r) ∧
      (∃ d, twiceScaled.apply (.setArrangeAlign (some .column) none) = .ok d) ∧
      ∀ d, twiceScaled.apply (.addDisabled "!eDP|LVDS") = .ok d →
        d.issues = [] ∧ d.apply (.deleteDisabled "!eDP|LVDS") = .ok twiceScaled) ∧
      twiceScaled.issuesBy (fun p => if p = "" then some .empty else none) = [] ∧
        ∃ r, twiceScaled.applyBy (fun p => if p = "" then some .empty else none)
            (.setOrder ["!(", ""]) =
          .error r := by
  have hc : twiceScaled.issues = [] := by decide +kernel
  have hany : twiceScaled.issuesBy (fun p => if p = "" then some .empty else none) = [] := by
    decide +kernel
  obtain ⟨hfollows, harranged⟩ := (commands_followed twiceScaled).1 hc
  obtain ⟨hfollowsAny, _⟩ := (commands_followed twiceScaled).2 _ hany
  refine ⟨⟨hc, (hfollows _).refused.mpr (.inl (by decide +kernel)), harranged .column,
      fun d hd => ?_⟩,
    hany, (hfollowsAny _).refused.mpr ⟨"", by simp, by simp⟩⟩
  exact ⟨(hfollows _).sound d hd, (hfollows _).takenBack d _ hd (.disabled _ (by decide))⟩

end Config

end OutputArranger
