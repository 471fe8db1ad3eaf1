import OutputArranger.Config.File
import OutputArranger.Proofs.Collection
import OutputArranger.Proofs.Config.Commands
import OutputArranger.Proofs.Toml.Statements
import OutputArranger.Proofs.Toml.Tables

/-!
# Saved configurations

A saved configuration is read back as it was, whatever its strings and numbers are, except that any
scale that is no number becomes the same one. Reading also repairs, and the repair takes away
exactly the scales that are no numbers from a configuration without issues.
-/

namespace OutputArranger.Config

open Toml

variable (c : Config)

/-! ## What is written -/

def emptyRow (key : String) (isEmpty : Bool) : Row := if isEmpty then [(key, .array [])] else []

/-- The entries of a saved configuration before its tables. -/
def plainRow : Row :=
  [("arrange", .string c.arrange.name), ("align", .string c.align.name),
    ("order", .array (c.order.map .string)), ("auto_scale", .boolean c.autoScale),
    ("max_preferred_refresh", .array (c.fastest.map .string)),
    ("disabled", .array (c.disabled.map .string)),
    ("laptop_display_prefix", .string c.laptopPrefix),
    ("log_threshold", .string c.threshold.name)] ++
  emptyRow "scale" c.scales.isEmpty ++ emptyRow "transform" c.transforms.isEmpty

def scaleRow (s : UserScale) : Row :=
  [("name_desc", .string s.pattern), ("scale", .float s.scale.canonical)]

def transformRow (t : UserTransform) : Row :=
  [("name_desc", .string t.pattern), ("transform", .string t.transform.name)]

/-- The tables of a saved configuration. -/
def savedLists : List (String × List Row) :=
  [("scale", c.scales.map scaleRow), ("transform", c.transforms.map transformRow)]

/-- The statements of a saved configuration. -/
def savedStatements : List Statement := entryStatements c.plainRow ++ listStatements c.savedLists

/-- The entries of a saved configuration. -/
def savedEntries : Row := c.plainRow ++ listedRows c.savedLists

variable {c}

theorem readsAs_flatMap {α : Type} {f : α → List Char} {g : α → List Statement} {rest : List Char}
    {ss : List Statement} (hf : ∀ a rest ss, ReadsAs rest ss → ReadsAs (f a ++ rest) (g a ++ ss))
    (h : ReadsAs rest ss) (as : List α) : ReadsAs (as.flatMap f ++ rest) (as.flatMap g ++ ss) := by
  induction as with
  | nil => exact h
  | cons a as ih =>
      rw [List.flatMap_cons, List.flatMap_cons, List.append_assoc, List.append_assoc]
      exact hf a _ _ ih

theorem scaleTable_eq (s : UserScale) : scaleTable s = headerLine "scale" ++
    (entryLine "name_desc" (quoted s.pattern) ++ entryLine "scale" (floatText s.scale)) := by
  have hheader : "\n[[scale]]\n".toList = headerLine "scale" := rfl
  unfold scaleTable
  simp only [hheader, List.append_assoc]

theorem transformTable_eq (t : UserTransform) : transformTable t = headerLine "transform" ++
    (entryLine "name_desc" (quoted t.pattern) ++
      entryLine "transform" (quoted t.transform.name)) := by
  have hheader : "\n[[transform]]\n".toList = headerLine "transform" := rfl
  unfold transformTable
  simp only [hheader, List.append_assoc]

section Lines

variable {rest : List Char} {ss : List Statement} (h : ReadsAs rest ss)
include h

theorem readsAs_scaleTable (s : UserScale) :
    ReadsAs (scaleTable s ++ rest)
      (.listedTable ["scale"] :: entryStatements (scaleRow s) ++ ss) := by
  have hname : IsBare "name_desc" := by decide
  have hscale : IsBare "scale" := by decide
  rw [scaleTable_eq, List.append_assoc, List.append_assoc]
  exact ((h.entryLine hscale (writes_word (isWord_floatText s.scale))).entryLine hname
    (writes_quoted s.pattern)).headerLine hscale

theorem readsAs_transformTable (t : UserTransform) :
    ReadsAs (transformTable t ++ rest)
      (.listedTable ["transform"] :: entryStatements (transformRow t) ++ ss) := by
  have hname : IsBare "name_desc" := by decide
  have htransform : IsBare "transform" := by decide
  rw [transformTable_eq, List.append_assoc, List.append_assoc]
  exact ((h.entryLine htransform (writes_quoted t.transform.name)).entryLine hname
    (writes_quoted t.pattern)).headerLine htransform

theorem readsAs_emptyLine {key : String} (hkey : IsBare key) (isEmpty : Bool) :
    ReadsAs (emptyLine key isEmpty ++ rest) (entryStatements (emptyRow key isEmpty) ++ ss) := by
  cases isEmpty with
  | false => exact h
  | true => exact h.entryLine hkey (writes_listText [])

end Lines

theorem readsAs_tables :
    ReadsAs (c.scales.flatMap scaleTable ++ c.transforms.flatMap transformTable)
    (listStatements c.savedLists) := by
  have htransforms := readsAs_flatMap (fun t _ _ h => readsAs_transformTable h t) readsAs_nil
    c.transforms
  have hscales := readsAs_flatMap (fun s _ _ h => readsAs_scaleTable h s) htransforms c.scales
  simpa only [savedLists, listStatements, tableStatements, List.flatMap_map, List.flatMap_cons,
    List.flatMap_nil, List.append_nil] using hscales

theorem readsAs_toToml : ReadsAs c.toToml c.savedStatements := by
  simp only [toToml, savedStatements, plainRow, entryStatements, List.map_append, List.map_cons,
    List.append_assoc, List.cons_append, List.nil_append]
  refine .entryLine ?_ (by decide) (writes_quoted c.arrange.name)
  refine .entryLine ?_ (by decide) (writes_quoted c.align.name)
  refine .entryLine ?_ (by decide) (writes_listText c.order)
  refine .entryLine ?_ (by decide) (writes_word (isWord_boolean c.autoScale))
  refine .entryLine ?_ (by decide) (writes_listText c.fastest)
  refine .entryLine ?_ (by decide) (writes_listText c.disabled)
  refine .entryLine ?_ (by decide) (writes_quoted c.laptopPrefix)
  refine .entryLine ?_ (by decide) (writes_quoted c.threshold.name)
  refine readsAs_emptyLine ?_ (by decide) c.scales.isEmpty
  refine readsAs_emptyLine ?_ (by decide) c.transforms.isEmpty
  exact readsAs_tables

/-! ## The document -/

theorem nodup_keys_savedEntries : (c.savedEntries.map (·.1)).Nodup := by
  unfold savedEntries plainRow savedLists listedRows
  cases c.scales <;> cases c.transforms <;> simp [emptyRow, listedRow]

theorem parse_toToml : Toml.parse c.saved = some c.savedEntries := by
  have hmark : c.toToml.head? ≠ some '\ufeff' := by
    have hhead : c.toToml.head? = some 'a' := rfl
    rw [hhead]
    decide
  have hstatements : statements c.saved.toList = some c.savedStatements := by
    rw [saved, String.toList_ofList]
    exact readsAs_toToml.statements_eq hmark
  have hrows : ∀ l ∈ c.savedLists, ∀ row ∈ l.2, (row.map (·.1)).Nodup := by
    simp [savedLists, scaleRow, transformRow]
  have hbuild := build_document nodup_keys_savedEntries hrows
  unfold Toml.parse
  rw [hstatements]
  rw [Option.map_eq_bind] at hbuild
  exact hbuild

/-! ## The settings of the document -/

theorem setting_savedEntries {α : Type} {key : String} {v : Value} (start : α)
    (f : Value → Option α) (hmem : (key, v) ∈ c.savedEntries) :
    setting c.savedEntries key start f = f v := by
  have hfind : c.savedEntries.find? (·.1 = key) = some (key, v) :=
    find?_eq_some_of_mem nodup_keys_savedEntries hmem
  unfold setting
  rw [hfind]

theorem mapM_map_eq {α β γ : Type} {f : β → Option γ} {g : α → β} {h : α → γ}
    (hf : ∀ a, f (g a) = some (h a)) (as : List α) : (as.map g).mapM f = some (as.map h) := by
  induction as with
  | nil => rfl
  | cons a as ih => simp [hf, ih]

theorem asStrings?_array (items : List String) :
    Value.asStrings? (.array (items.map .string)) = some items := by
  have hitems := mapM_map_eq (f := Value.asString?) (g := .string) (h := id) (fun _ => rfl) items
  simpa [Value.asStrings?, Value.asArray?] using hitems

theorem mem_savedEntries_scale :
    ("scale", .array (c.scales.map fun s => .table (scaleRow s))) ∈ c.savedEntries := by
  unfold savedEntries plainRow savedLists listedRows
  cases c.scales with
  | nil => simp [emptyRow]
  | cons s scales => simp [listedRow]

theorem mem_savedEntries_transform :
    ("transform", .array (c.transforms.map fun t => .table (transformRow t))) ∈ c.savedEntries := by
  unfold savedEntries plainRow savedLists listedRows
  cases c.transforms with
  | nil => simp [emptyRow]
  | cons t transforms => simp [listedRow]

/-- A scale as it is read back. -/
def canonicalScale (s : UserScale) : UserScale := { s with scale := s.scale.canonical }

variable (c) in
/-- A configuration as it is read back. -/
def canonical : Config := { c with scales := c.scales.map canonicalScale }

theorem scaleOf?_scaleRow (s : UserScale) :
    scaleOf? (.table (scaleRow s)) = some (canonicalScale s) := by
  simp [scaleOf?, scaleRow, required, canonicalScale, Value.asString?, Value.asFloat?]

theorem transformOf?_transformRow (t : UserTransform) :
    transformOf? (.table (transformRow t)) = some t := by
  simp [transformOf?, transformRow, required, Value.asString?, Value.asName?,
    Transform.ofName?_name]

theorem all_settings_savedEntries :
    (c.savedEntries.all fun e => settings.contains e.1) = true := by
  unfold savedEntries plainRow savedLists listedRows
  cases c.scales <;> cases c.transforms <;> simp [emptyRow, listedRow, settings]

theorem mem_savedEntries {key : String} {v : Value} (h : (key, v) ∈ c.plainRow) :
    (key, v) ∈ c.savedEntries :=
  List.mem_append_left _ h

theorem ofEntries?_savedEntries : ofEntries? c.savedEntries = some c.canonical := by
  have harrange : ("arrange", .string c.arrange.name) ∈ c.savedEntries :=
    mem_savedEntries (by simp [plainRow])
  have halign : ("align", .string c.align.name) ∈ c.savedEntries :=
    mem_savedEntries (by simp [plainRow])
  have horder : ("order", .array (c.order.map .string)) ∈ c.savedEntries :=
    mem_savedEntries (by simp [plainRow])
  have hautoScale : ("auto_scale", .boolean c.autoScale) ∈ c.savedEntries :=
    mem_savedEntries (by simp [plainRow])
  have hfastest : ("max_preferred_refresh", .array (c.fastest.map .string)) ∈ c.savedEntries :=
    mem_savedEntries (by simp [plainRow])
  have hdisabled : ("disabled", .array (c.disabled.map .string)) ∈ c.savedEntries :=
    mem_savedEntries (by simp [plainRow])
  have hprefix : ("laptop_display_prefix", .string c.laptopPrefix) ∈ c.savedEntries :=
    mem_savedEntries (by simp [plainRow])
  have hthreshold : ("log_threshold", .string c.threshold.name) ∈ c.savedEntries :=
    mem_savedEntries (by simp [plainRow])
  have hscales : (c.scales.map fun s => Value.table (scaleRow s)).mapM scaleOf? =
      some (c.scales.map canonicalScale) := mapM_map_eq scaleOf?_scaleRow c.scales
  have htransforms : (c.transforms.map fun t => Value.table (transformRow t)).mapM transformOf? =
      some (c.transforms.map id) := mapM_map_eq transformOf?_transformRow c.transforms
  unfold ofEntries?
  rw [if_pos all_settings_savedEntries]
  simp only [setting_savedEntries _ _ harrange, setting_savedEntries _ _ halign,
    setting_savedEntries _ _ horder, setting_savedEntries _ _ hautoScale,
    setting_savedEntries _ _ hfastest, setting_savedEntries _ _ hdisabled,
    setting_savedEntries _ _ hprefix, setting_savedEntries _ _ hthreshold,
    setting_savedEntries _ _ mem_savedEntries_scale,
    setting_savedEntries _ _ mem_savedEntries_transform]
  simp [Value.asName?, Value.asString?, Value.asBool?, Value.asArray?, asStrings?_array,
    Arrange.ofName?_name, Align.ofName?_name, LogThreshold.ofName?_name, hscales, htransforms,
    canonical]

/-! ## Reading back -/

/-- A saved configuration is read back as it was, up to what its numbers that are none carry. -/
theorem parse_saved : parse c.saved = .ok c.canonical := by
  unfold parse
  simp only [parse_toToml, ofEntries?_savedEntries]

theorem canonicalScale_eq_self {s : UserScale} (hs : s.scale.isNaN = false) :
    canonicalScale s = s := by
  rw [canonicalScale, Binary64.canonical_eq_self hs]

theorem HasNumbers.canonical_eq (h : c.HasNumbers) : c.canonical = c := by
  have hscales : c.scales.map canonicalScale = c.scales :=
    (List.map_congr_left fun s hs => canonicalScale_eq_self (h s hs)).trans (List.map_id c.scales)
  rw [canonical, hscales]

/-- The scales that are no numbers are dropped anyway, whichever of them is read. -/
theorem onlyNumbers_canonical : c.canonical.onlyNumbers = c.onlyNumbers := by
  have hscales : (c.scales.map canonicalScale).filter (!·.scale.isNaN) =
      c.scales.filter (!·.scale.isNaN) := by
    have hcanonical : (fun s : UserScale => !(canonicalScale s).scale.isNaN) =
        fun s => !s.scale.isNaN := funext fun s => by
      rw [canonicalScale, Binary64.isNaN_canonical]
    rw [List.filter_map, Function.comp_def, hcanonical]
    refine (List.map_congr_left fun s hs => canonicalScale_eq_self ?_).trans (List.map_id _)
    simpa using (List.mem_filter.mp hs).2
  exact congrArg (fun scales => { c with scales }) hscales

theorem Sound.canonical {issue? : String → Option PatternIssue} (hc : c.Sound issue?) :
    c.canonical.Sound issue? where
  align := hc.align
  order := hc.order
  fastest := hc.fastest
  disabled := hc.disabled
  scales s hs := by
    obtain ⟨t, ht, rfl⟩ := List.mem_map.mp hs
    obtain ⟨hscale, hpattern⟩ := hc.scales t ht
    exact ⟨(Binary64.isNonPositive_canonical t.scale).trans hscale, hpattern⟩
  transforms := hc.transforms

/-- Of a configuration without issues, only what is no number is not read back. -/
theorem read_saved (hc : c.issues = []) (path : String) :
    read path (.text c.saved) = .ok c.onlyNumbers := by
  have hsound : c.canonical.Sound NamePattern.issue? := (issuesBy_eq_nil_iff.mp hc).canonical
  simp only [read, parse_saved]
  rw [fixed_eq_fixedBy, hsound.fixedBy_eq]
  exact congrArg Except.ok onlyNumbers_canonical

/-- A configuration whose scales are numbers is read back as it was saved, and without issues it is
not changed by the repair. -/
theorem parse_saved_eq_self (h : c.HasNumbers) :
    parse c.saved = .ok c ∧ (c.issues = [] → ∀ path, read path (.text c.saved) = .ok c) := by
  refine ⟨parse_saved.trans (congrArg Except.ok h.canonical_eq), fun hc path => ?_⟩
  rw [read_saved hc, onlyNumbers_eq_self_iff.mpr h]

/-- Texts of all kinds, and scales at both ends of their range. -/
def oddTexts : Config :=
  { Config.default with
    order := ["a\"b", "'c'", "d\\e\nf", "\r\x07", "'c'", "\"\"\"'''\n"]
    fastest := ["\\"]
    disabled := [" \t", "\x00\x7f"]
    laptopPrefix := ""
    scales := [⟨"\n", .infinity false⟩, ⟨"''", .ofRank false 1⟩] }

theorem parse_saved_eq_self_oddTexts : oddTexts.HasNumbers ∧ parse oddTexts.saved = .ok oddTexts ∧
    oddTexts.issues = [] ∧ read "config.toml" (.text oddTexts.saved) = .ok oddTexts := by
  have hnumbers : oddTexts.HasNumbers := by decide
  have hissues : oddTexts.issues = [] := by decide +kernel
  obtain ⟨hparse, hread⟩ := parse_saved_eq_self hnumbers
  exact ⟨hnumbers, hparse, hissues, hread hissues _⟩

/-! ## What is lost -/

/-- Of a configuration nothing but the scales that are no numbers is lost, whether it is repaired or
saved and read back. -/
structure LosesOnlyNonNumbers (c : Config) : Prop where
  fixed : c.fixed = c.onlyNumbers
  read (path : String) : Config.read path (.text c.saved) = .ok c.onlyNumbers
  fixed_eq_self_iff : c.fixed = c ↔ c.HasNumbers
  read_eq_self_iff (path : String) : Config.read path (.text c.saved) = .ok c ↔ c.HasNumbers

/-- A configuration without issues, like each that a command leads to, is left alone by the repair
when it is saved and read back, as long as its scales are numbers; any others it loses. -/
theorem losesOnlyNonNumbers (hc : c.issues = [] ∨ ∃ b command, apply b command = .ok c) :
    c.LosesOnlyNonNumbers := by
  have hissues : c.issues = [] := by
    obtain hc | ⟨b, command, hb⟩ := hc
    · exact hc
    · rw [apply_eq_applyBy] at hb
      rw [issues_eq_issuesBy]
      exact issuesBy_eq_nil_iff.mpr (sound_of_applyBy hb)
  have hfixed : c.fixed = c.onlyNumbers := (issuesBy_eq_nil_iff.mp hissues).fixedBy_eq
  have hread := read_saved hissues
  refine ⟨hfixed, hread, ?_, fun path => ?_⟩
  · rw [hfixed, onlyNumbers_eq_self_iff]
  · rw [hread, Except.ok.injEq, onlyNumbers_eq_self_iff]

/-- A scale that is a number and one that is none. -/
def halfNumbered : Config :=
  { Config.default with scales := [⟨"DP-1", .infinity false⟩, ⟨"x", .nan⟩] }

theorem losesOnlyNonNumbers_halfNumbered :
    (∃ b command, apply b command = .ok halfNumbered) ∧ halfNumbered.LosesOnlyNonNumbers ∧
      read "config.toml" (.text halfNumbered.saved) =
        .ok { Config.default with scales := [⟨"DP-1", .infinity false⟩] } := by
  have hcommand : ∃ b command, apply b command = .ok halfNumbered :=
    ⟨{ Config.default with scales := [⟨"DP-1", .infinity false⟩] }, .setScale ⟨"x", .nan⟩,
      by decide +kernel⟩
  have hlost := losesOnlyNonNumbers (.inr hcommand)
  exact ⟨hcommand, hlost, hlost.read _⟩

/-- A scale that is no number, as it may stand in a file or in a command. -/
def unnumbered : Config := { Config.default with scales := [⟨"x", .nan⟩] }

/-- Nothing is wrong with such a scale and a command may set it, yet the repair drops it. -/
theorem unnumbered_lost :
    parse "[[scale]]\nname_desc = \"x\"\nscale = nan\n" = .ok unnumbered ∧
      apply Config.default (.setScale ⟨"x", .nan⟩) = .ok unnumbered ∧ unnumbered.issues = [] ∧
      unnumbered.fixed = Config.default ∧ unnumbered.fixed ≠ unnumbered ∧
      read "config.toml" (.text unnumbered.saved) = .ok Config.default := by
  have hissues : unnumbered.issues = [] := by decide +kernel
  refine ⟨by decide +kernel, by decide +kernel, hissues, by decide +kernel, by decide +kernel, ?_⟩
  exact read_saved hissues _

end OutputArranger.Config
