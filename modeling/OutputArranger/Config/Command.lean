import OutputArranger.Collection
import OutputArranger.Config.Issue
import OutputArranger.Text.Quoted

/-!
# Changes to a configuration

A command changes one setting. It is refused when there is nothing to change, and when the
configuration that results has issues.
-/

namespace OutputArranger

inductive ConfigCommand where
  | setArrangeAlign (arrange : Option Arrange) (align : Option Align)
  | setOrder (patterns : List String)
  | setAutoScale (on : Bool)
  | setScale (entry : UserScale)
  | deleteScale (pattern : String)
  | setTransform (entry : UserTransform)
  | deleteTransform (pattern : String)
  | addFastest (pattern : String)
  | deleteFastest (pattern : String)
  | addDisabled (pattern : String)
  | deleteDisabled (pattern : String)
  | setLaptopPrefix (start : String)
  | setThreshold (threshold : LogThreshold)
deriving DecidableEq

/-- Why a command is refused. -/
inductive CommandRefusal where
  | nothingGiven
  | noScale (pattern : String)
  | noTransform (pattern : String)
  | notListed (pattern list : String)
  | issues (found : List ConfigIssue)
deriving DecidableEq

def CommandRefusal.message : CommandRefusal → String
  | .nothingGiven => "Neither arrange nor align given"
  | .noScale p => "No scale for '" ++ p ++ "'"
  | .noTransform p => "No transform for '" ++ p ++ "'"
  | .notListed p list => "'" ++ p ++ "' not found in " ++ list
  | .issues found => "; ".intercalate (found.map ConfigIssue.message)

namespace Config

/-- The names of the two lists to which patterns are added and from which they are deleted. -/
def fastestList : String := "max_preferred_refresh"

def disabledList : String := "disabled"

/-- Sets the scale of a pattern: in its first entry, or in a new one at the end. -/
def putScale (entry : UserScale) (scales : List UserScale) : List UserScale :=
  if scales.any (·.pattern = entry.pattern) then
    updateFirst (·.pattern = entry.pattern) (fun s => { s with scale := entry.scale }) scales
  else scales ++ [entry]

/-- Sets the transform of a pattern: in its first entry, or in a new one at the end. -/
def putTransform (entry : UserTransform) (transforms : List UserTransform) : List UserTransform :=
  if transforms.any (·.pattern = entry.pattern) then
    updateFirst (·.pattern = entry.pattern) (fun t => { t with transform := entry.transform })
      transforms
  else transforms ++ [entry]

/-- The alignment after an arrangement was set on its own: it stays if it fits. -/
def alignAfter (arrange : Arrange) (align : Align) : Align :=
  if align.fits arrange then align else .defaultFor arrange

/-- The configuration after a command, before it is checked as a whole. -/
def edited (c : Config) : ConfigCommand → Config
  | .setArrangeAlign arrange align =>
      let newArrange := arrange.getD c.arrange
      let newAlign := match arrange, align with
        | _, some a => a
        | some r, none => alignAfter r c.align
        | none, none => c.align
      { c with arrange := newArrange, align := newAlign }
  | .setOrder patterns => { c with order := patterns }
  | .setAutoScale on => { c with autoScale := on }
  | .setScale entry => { c with scales := putScale entry c.scales }
  | .deleteScale p => { c with scales := c.scales.filter (·.pattern ≠ p) }
  | .setTransform entry => { c with transforms := putTransform entry c.transforms }
  | .deleteTransform p => { c with transforms := c.transforms.filter (·.pattern ≠ p) }
  | .addFastest p => { c with fastest := insertNew p c.fastest }
  | .deleteFastest p => { c with fastest := c.fastest.filter (· ≠ p) }
  | .addDisabled p => { c with disabled := insertNew p c.disabled }
  | .deleteDisabled p => { c with disabled := c.disabled.filter (· ≠ p) }
  | .setLaptopPrefix s => { c with laptopPrefix := s }
  | .setThreshold t => { c with threshold := t }

/-- Why there is nothing for a command to change. -/
def refusal? (c : Config) : ConfigCommand → Option CommandRefusal
  | .setArrangeAlign none none => some .nothingGiven
  | .deleteScale p => if c.scales.any (·.pattern = p) then none else some (.noScale p)
  | .deleteTransform p => if c.transforms.any (·.pattern = p) then none else some (.noTransform p)
  | .deleteFastest p => if p ∈ c.fastest then none else some (.notListed p fastestList)
  | .deleteDisabled p => if p ∈ c.disabled then none else some (.notListed p disabledList)
  | _ => none

/-- The configuration after a command, or why the command is refused. -/
def apply (c : Config) (command : ConfigCommand) : Except CommandRefusal Config :=
  match c.refusal? command with
  | some r => .error r
  | none =>
      let new := c.edited command
      match new.issues with
      | [] => .ok new
      | found => .error (.issues found)

/-- That a setting has a new value. -/
def updated (setting value : String) : Notice := .info ("Updated " ++ setting ++ " to: " ++ value)

/-- What is said about a command, whether or not it is refused in the end. -/
def commandNotices (c : Config) : ConfigCommand → List Notice
  | .setArrangeAlign arrange align =>
      let first := match arrange with
        | none => []
        | some r => updated "arrange" r.title ::
            (if align.isNone && !c.align.fits r then [updated "align" (Align.defaultFor r).title]
            else [])
      first ++ (align.map fun a => updated "align" a.title).toList
  | .setOrder patterns => [updated "order" (Quoted.strings patterns)]
  | .setAutoScale on => [updated "auto_scale" (if on then "true" else "false")]
  | .setScale entry => [updated ("scale for '" ++ entry.pattern ++ "'") entry.scale.plain]
  | .deleteScale _ => []
  | .setTransform entry =>
      [updated ("transform for '" ++ entry.pattern ++ "'") entry.transform.name]
  | .deleteTransform _ => []
  | .addFastest p => added p fastestList c.fastest
  | .deleteFastest p => removed p fastestList c.fastest
  | .addDisabled p => added p disabledList c.disabled
  | .deleteDisabled p => removed p disabledList c.disabled
  | .setLaptopPrefix s => [updated "laptop_display_prefix" (Quoted.string s)]
  | .setThreshold t => [updated "log_threshold" t.title]
where
  added (p list : String) (present : List String) : List Notice :=
    if p ∈ present then [] else [.info ("Added '" ++ p ++ "' to " ++ list)]
  removed (p list : String) (present : List String) : List Notice :=
    if p ∈ present then [.info ("Removed '" ++ p ++ "' from " ++ list)] else []

end Config

end OutputArranger
