import OutputArranger.Config.Issue
import OutputArranger.Toml.Document

/-!
# Configuration files

A configuration is written with every setting, in a fixed order, and read with a default for every
setting that is missing. The entries for scales and transforms are tables of their own and come
last.
-/

namespace OutputArranger

/-- Why a text is no configuration. -/
inductive ConfigFault where
  /-- The text is not TOML. -/
  | format
  /-- The text is TOML, but a setting is unknown, missing or of the wrong kind. -/
  | content
deriving DecidableEq

namespace Config

/-- A float, with a point in every finite one. -/
def floatText (x : Binary64) : List Char :=
  if x.isNaN then ['n', 'a', 'n']
  else if x.isInfinite then if x.negative then ['-', 'i', 'n', 'f'] else ['i', 'n', 'f']
  else x.pointed.toList

def quoted (s : String) : List Char := Toml.Text.encode s.toList

/-- An entry on a line of its own. -/
def entryLine (key : String) (value : List Char) : List Char :=
  key.toList ++ [' ', '=', ' '] ++ value ++ ['\n']

/-- A list of strings, each on a line of its own unless there is only one. -/
def listText : List String → List Char
  | [] => ['[', ']']
  | [s] => '[' :: (quoted s ++ [']'])
  | items =>
      ['[', '\n'] ++ (items.flatMap fun s => [' ', ' ', ' ', ' '] ++ quoted s ++ [',', '\n']) ++
        [']']

def scaleTable (s : UserScale) : List Char :=
  "\n[[scale]]\n".toList ++ entryLine "name_desc" (quoted s.pattern) ++
    entryLine "scale" (floatText s.scale)

def transformTable (t : UserTransform) : List Char :=
  "\n[[transform]]\n".toList ++ entryLine "name_desc" (quoted t.pattern) ++
    entryLine "transform" (quoted t.transform.name)

/-- An empty list stands among the plain settings. -/
def emptyLine (key : String) (isEmpty : Bool) : List Char :=
  if isEmpty then entryLine key ['[', ']'] else []

/-- The text of a configuration file. -/
def toToml (c : Config) : List Char :=
  entryLine "arrange" (quoted c.arrange.name) ++ entryLine "align" (quoted c.align.name) ++
    entryLine "order" (listText c.order) ++
    entryLine "auto_scale" (if c.autoScale then "true" else "false").toList ++
    entryLine "max_preferred_refresh" (listText c.fastest) ++
    entryLine "disabled" (listText c.disabled) ++
    entryLine "laptop_display_prefix" (quoted c.laptopPrefix) ++
    entryLine "log_threshold" (quoted c.threshold.name) ++
    emptyLine "scale" c.scales.isEmpty ++ emptyLine "transform" c.transforms.isEmpty ++
    c.scales.flatMap scaleTable ++ c.transforms.flatMap transformTable

/-- The text that is written to the configuration file. -/
def saved (c : Config) : String := String.ofList c.toToml

open Toml (Value)

/-- The value of a setting, or its default. -/
def setting {α : Type} (entries : List (String × Value)) (key : String) (start : α)
    (f : Value → Option α) : Option α :=
  match entries.find? (·.1 = key) with
  | none => some start
  | some (_, v) => f v

/-- The value of an entry that has to be there. -/
def required {α : Type} (entries : List (String × Value)) (key : String)
    (f : Value → Option α) : Option α :=
  (entries.find? (·.1 = key)).bind fun e => f e.2

/-- An entry for a scale: a table with both keys and no other, or an array that begins with both
values. -/
def scaleOf? : Value → Option UserScale
  | .table entries =>
      if entries.all (fun e => e.1 = "name_desc" || e.1 = "scale") then do
        some ⟨← required entries "name_desc" Value.asString?,
          ← required entries "scale" Value.asFloat?⟩
      else none
  | .array (p :: s :: _) => do some ⟨← p.asString?, ← s.asFloat?⟩
  | _ => none

/-- An entry for a transform, likewise. -/
def transformOf? : Value → Option UserTransform
  | .table entries =>
      if entries.all (fun e => e.1 = "name_desc" || e.1 = "transform") then do
        some ⟨← required entries "name_desc" Value.asString?,
          ← required entries "transform" fun v => v.asName?.bind Transform.ofName?⟩
      else none
  | .array (p :: t :: _) => do some ⟨← p.asString?, ← t.asName?.bind Transform.ofName?⟩
  | _ => none

/-- The configuration of the entries of a document. Unknown settings are refused. -/
def ofEntries? (entries : List (String × Value)) : Option Config :=
  if entries.all (fun e => settings.contains e.1) then do
    some
      { arrange := ← setting entries "arrange" default.arrange fun v =>
          v.asName?.bind Arrange.ofName?
        align := ← setting entries "align" default.align fun v => v.asName?.bind Align.ofName?
        order := ← setting entries "order" default.order Value.asStrings?
        autoScale := ← setting entries "auto_scale" default.autoScale Value.asBool?
        fastest := ← setting entries "max_preferred_refresh" default.fastest Value.asStrings?
        disabled := ← setting entries "disabled" default.disabled Value.asStrings?
        laptopPrefix := ← setting entries "laptop_display_prefix" default.laptopPrefix
          Value.asString?
        threshold := ← setting entries "log_threshold" default.threshold fun v =>
          v.asName?.bind LogThreshold.ofName?
        scales := ← setting entries "scale" default.scales fun v => do
          (← v.asArray?).mapM scaleOf?
        transforms := ← setting entries "transform" default.transforms fun v => do
          (← v.asArray?).mapM transformOf? }
  else none

/-- Reads the text of a configuration file, issues and all. Where that fails, the text is to blame
if it holds an integer that is too large for TOML. -/
def parse (text : String) : Except ConfigFault Config :=
  match Toml.parse text with
  | none => .error .format
  | some entries =>
      match ofEntries? entries with
      | none => .error (if Value.fitEntries entries then .content else .format)
      | some c => .ok c

end Config

end OutputArranger
