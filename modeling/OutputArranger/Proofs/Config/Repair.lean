import OutputArranger.Config.Issue

/-!
# Repaired configurations

What cannot be used is dropped from a configuration, and nothing else: what is left has no issues
and needs no second repair. None of this depends on which patterns are bad, so it is shown for any
way of telling them. A configuration without issues is left alone exactly when all its scales are
numbers.
-/

namespace OutputArranger

theorem Binary64.isPositive_iff {x : Binary64} :
    x.isPositive = true ↔ x.isNaN = false ∧ x.isNonPositive = false := by
  unfold isPositive isNonPositive
  cases x.isNaN <;> simp

namespace Config

variable (issue? : String → Option PatternIssue) (c : Config)

/-! ## Any way of telling bad patterns -/

/-- Everything that is wrong with a configuration when `issue?` tells what is wrong with a
pattern. -/
def issuesBy : List ConfigIssue :=
  (if c.align.fits c.arrange then [] else [.alignMismatch c.align c.arrange]) ++
    (c.scales.filter (·.scale.isNonPositive)).map .scaleNotPositive ++
    (c.patterns.filterMap issue?).map .pattern

/-- The configuration without what cannot be used when `issue?` tells what is wrong with a
pattern. -/
def fixedBy : Config :=
  { c with
    align := if c.align.fits c.arrange then c.align else .defaultFor c.arrange
    scales := c.scales.filter fun s => s.scale.isPositive && (issue? s.pattern).isNone
    transforms := c.transforms.filter fun t => (issue? t.pattern).isNone
    order := c.order.filter fun p => (issue? p).isNone
    fastest := c.fastest.filter fun p => (issue? p).isNone
    disabled := c.disabled.filter fun p => (issue? p).isNone }

theorem issues_eq_issuesBy : c.issues = c.issuesBy NamePattern.issue? := rfl

theorem fixed_eq_fixedBy : c.fixed = c.fixedBy NamePattern.issue? := rfl

/-- A configuration of which nothing is wrong. -/
structure Sound : Prop where
  align : c.align.fits c.arrange = true
  order : ∀ p ∈ c.order, issue? p = none
  fastest : ∀ p ∈ c.fastest, issue? p = none
  disabled : ∀ p ∈ c.disabled, issue? p = none
  scales : ∀ s ∈ c.scales, s.scale.isNonPositive = false ∧ issue? s.pattern = none
  transforms : ∀ t ∈ c.transforms, issue? t.pattern = none

variable {issue? c}

theorem issue?_eq_none_iff :
    (∀ p ∈ c.patterns, issue? p = none) ↔
      (∀ p ∈ c.order, issue? p = none) ∧ (∀ p ∈ c.fastest, issue? p = none) ∧
        (∀ p ∈ c.disabled, issue? p = none) ∧ (∀ s ∈ c.scales, issue? s.pattern = none) ∧
          ∀ t ∈ c.transforms, issue? t.pattern = none := by
  simp only [patterns, List.forall_mem_append, List.forall_mem_map, and_assoc]

theorem issuesBy_eq_nil_iff : c.issuesBy issue? = [] ↔ c.Sound issue? := by
  have halign : (if c.align.fits c.arrange then [] else
      [ConfigIssue.alignMismatch c.align c.arrange]) = [] ↔ c.align.fits c.arrange = true := by
    cases c.align.fits c.arrange <;> simp
  have hscales : (c.scales.filter (·.scale.isNonPositive)).map ConfigIssue.scaleNotPositive = [] ↔
      ∀ s ∈ c.scales, s.scale.isNonPositive = false := by
    simp only [List.map_eq_nil_iff, List.filter_eq_nil_iff, Bool.not_eq_true]
  have hpatterns : (c.patterns.filterMap issue?).map ConfigIssue.pattern = [] ↔
      ∀ p ∈ c.patterns, issue? p = none := by
    rw [List.map_eq_nil_iff, List.filterMap_eq_nil_iff]
  rw [issuesBy, List.append_eq_nil_iff, List.append_eq_nil_iff, halign, hscales, hpatterns,
    issue?_eq_none_iff]
  constructor
  · rintro ⟨⟨halign, hscales⟩, horder, hfastest, hdisabled, hnamed, htransforms⟩
    exact ⟨halign, horder, hfastest, hdisabled, fun s hs => ⟨hscales s hs, hnamed s hs⟩,
      htransforms⟩
  · rintro ⟨halign, horder, hfastest, hdisabled, hscales, htransforms⟩
    exact ⟨⟨halign, fun s hs => (hscales s hs).1⟩, horder, hfastest, hdisabled,
      fun s hs => (hscales s hs).2, htransforms⟩

/-! ## Repair -/

variable (issue? c) in
/-- A configuration that differs from another one as little as it takes to have no issues. -/
structure IsRepair (d : Config) : Prop where
  arrange : d.arrange = c.arrange
  align : d.align = if c.align.fits c.arrange then c.align else .defaultFor c.arrange
  order : d.order = c.order.filter fun p => (issue? p).isNone
  autoScale : d.autoScale = c.autoScale
  fastest : d.fastest = c.fastest.filter fun p => (issue? p).isNone
  disabled : d.disabled = c.disabled.filter fun p => (issue? p).isNone
  laptopPrefix : d.laptopPrefix = c.laptopPrefix
  threshold : d.threshold = c.threshold
  scales : d.scales = c.scales.filter fun s => s.scale.isPositive && (issue? s.pattern).isNone
  transforms : d.transforms = c.transforms.filter fun t => (issue? t.pattern).isNone

theorem isRepair_fixedBy : IsRepair issue? c (c.fixedBy issue?) :=
  ⟨rfl, rfl, rfl, rfl, rfl, rfl, rfl, rfl, rfl, rfl⟩

theorem isNone_of_mem_filter {α : Type} {f : α → Option PatternIssue} {xs : List α} :
    ∀ a ∈ xs.filter fun a => (f a).isNone, f a = none := fun _ ha =>
  Option.isNone_iff_eq_none.mp (List.mem_filter.mp ha).2

theorem sound_fixedBy : (c.fixedBy issue?).Sound issue? where
  align := by
    show (if c.align.fits c.arrange then c.align else .defaultFor c.arrange).fits c.arrange = true
    split
    · assumption
    · exact Align.defaultFor_fits c.arrange
  order := isNone_of_mem_filter
  fastest := isNone_of_mem_filter
  disabled := isNone_of_mem_filter
  scales s hs := by
    obtain ⟨hpositive, hpattern⟩ := Bool.and_eq_true_iff.mp (List.mem_filter.mp hs).2
    exact ⟨(Binary64.isPositive_iff.mp hpositive).2, Option.isNone_iff_eq_none.mp hpattern⟩
  transforms := isNone_of_mem_filter

theorem isPositive_of_mem_fixedBy {s : UserScale} (hs : s ∈ (c.fixedBy issue?).scales) :
    s.scale.isPositive = true :=
  (Bool.and_eq_true_iff.mp (List.mem_filter.mp hs).2).1

theorem filter_isNone_eq_self {α : Type} {f : α → Option PatternIssue} {xs : List α}
    (h : ∀ a ∈ xs, f a = none) : (xs.filter fun a => (f a).isNone) = xs :=
  List.filter_eq_self.mpr fun a ha => Option.isNone_iff_eq_none.mpr (h a ha)

/-! ## Without issues -/

/-- Whether all scales are numbers. -/
def HasNumbers (c : Config) : Prop := ∀ s ∈ c.scales, s.scale.isNaN = false

instance (c : Config) : Decidable c.HasNumbers := inferInstanceAs (Decidable (∀ s ∈ c.scales, _))

variable (c) in
/-- The configuration without the scales that are no numbers. -/
def onlyNumbers : Config := { c with scales := c.scales.filter (!·.scale.isNaN) }

theorem onlyNumbers_eq_self_iff : c.onlyNumbers = c ↔ c.HasNumbers := by
  have hfilter : (c.scales.filter (!·.scale.isNaN)) = c.scales ↔ c.HasNumbers := by
    simp only [HasNumbers, List.filter_eq_self, Bool.not_eq_true']
  rw [← hfilter]
  exact ⟨congrArg Config.scales, fun hscales => by rw [onlyNumbers, hscales]⟩

/-- Of a configuration without issues nothing is dropped but the scales that are no numbers. -/
theorem Sound.fixedBy_eq (hc : c.Sound issue?) : c.fixedBy issue? = c.onlyNumbers := by
  have hscales : (c.scales.filter fun s => s.scale.isPositive && (issue? s.pattern).isNone) =
      c.scales.filter (!·.scale.isNaN) := by
    refine List.filter_congr fun s hs => ?_
    obtain ⟨hscale, hpattern⟩ := hc.scales s hs
    rw [hpattern, Option.isNone_none, Bool.and_true, Bool.eq_iff_iff, Binary64.isPositive_iff]
    simp [hscale]
  unfold fixedBy onlyNumbers
  rw [if_pos hc.align, hscales, filter_isNone_eq_self hc.order, filter_isNone_eq_self hc.fastest,
    filter_isNone_eq_self hc.disabled, filter_isNone_eq_self hc.transforms]

theorem Sound.fixedBy_eq_self_iff (hc : c.Sound issue?) :
    c.fixedBy issue? = c ↔ c.HasNumbers := by
  rw [hc.fixedBy_eq, onlyNumbers_eq_self_iff]

theorem fixedBy_fixedBy : (c.fixedBy issue?).fixedBy issue? = c.fixedBy issue? :=
  sound_fixedBy.fixedBy_eq_self_iff.mpr fun _ hs =>
    (Binary64.isPositive_iff.mp (isPositive_of_mem_fixedBy hs)).1

/-- A repaired configuration has no issues and is not repaired any further. Of the one that it stems
from it keeps the entries that can be used, in their order, an alignment that fits, and all that
cannot be wrong. It would be so if other patterns were bad. -/
theorem fixed_repairs (c : Config) :
    (IsRepair NamePattern.issue? c c.fixed ∧ c.fixed.issues = [] ∧ c.fixed.fixed = c.fixed) ∧
      ∀ issue? : String → Option PatternIssue,
        IsRepair issue? c (c.fixedBy issue?) ∧ (c.fixedBy issue?).issuesBy issue? = [] ∧
          (c.fixedBy issue?).fixedBy issue? = c.fixedBy issue? := by
  have hrepair (issue? : String → Option PatternIssue) :
      IsRepair issue? c (c.fixedBy issue?) ∧ (c.fixedBy issue?).issuesBy issue? = [] ∧
        (c.fixedBy issue?).fixedBy issue? = c.fixedBy issue? :=
    ⟨isRepair_fixedBy, issuesBy_eq_nil_iff.mpr sound_fixedBy, fixedBy_fixedBy⟩
  exact ⟨hrepair NamePattern.issue?, hrepair⟩

end Config

end OutputArranger
