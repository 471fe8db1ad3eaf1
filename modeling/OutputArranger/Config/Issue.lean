import OutputArranger.Config.Basic
import OutputArranger.Log.Notice
import OutputArranger.Pattern.NamePattern

/-!
# What can be wrong with a configuration

`issues` lists what is wrong; `fixed` drops or replaces what cannot be used and `fixNotices` says
so. A scale that is no number is not reported as an issue but is dropped.
-/

namespace OutputArranger

inductive ConfigIssue where
  | alignMismatch (align : Align) (arrange : Arrange)
  | scaleNotPositive (entry : UserScale)
  | pattern (issue : PatternIssue)
deriving DecidableEq

def ConfigIssue.message : ConfigIssue → String
  | .alignMismatch align arrange =>
      "align '" ++ align.name ++ "' is not compatible with arrange '" ++ arrange.name ++ "'"
  | .scaleNotPositive entry =>
      "scale " ++ entry.scale.plain ++ " for '" ++ entry.pattern ++ "' must be greater than zero"
  | .pattern issue => issue.message

namespace Config

/-- All patterns of a configuration. -/
def patterns (c : Config) : List String :=
  c.order ++ c.fastest ++ c.disabled ++ c.scales.map (·.pattern) ++ c.transforms.map (·.pattern)

/-- Everything that is wrong, in the order of the settings. -/
def issues (c : Config) : List ConfigIssue :=
  (if c.align.fits c.arrange then [] else [.alignMismatch c.align c.arrange]) ++
    (c.scales.filter (·.scale.isNonPositive)).map .scaleNotPositive ++
    (c.patterns.filterMap NamePattern.issue?).map .pattern

/-- Whether an entry of the scales can be used. -/
def keepsScale (s : UserScale) : Bool := s.scale.isPositive && NamePattern.isValid s.pattern

/-- The configuration without what cannot be used. -/
def fixed (c : Config) : Config :=
  { c with
    align := if c.align.fits c.arrange then c.align else .defaultFor c.arrange
    scales := c.scales.filter keepsScale
    transforms := c.transforms.filter fun t => NamePattern.isValid t.pattern
    order := c.order.filter NamePattern.isValid
    fastest := c.fastest.filter NamePattern.isValid
    disabled := c.disabled.filter NamePattern.isValid }

/-- One warning for everything that `fixed` changes. -/
def fixNotices (c : Config) : List Notice :=
  let align :=
    if c.align.fits c.arrange then []
    else [.warning ("Ignoring align '" ++ c.align.name ++ "' for arrange '" ++ c.arrange.name ++
      "', using '" ++ (Align.defaultFor c.arrange).name ++ "'")]
  let scales := (c.scales.filter (!keepsScale ·)).map fun s =>
    .warning ("Ignoring invalid scale " ++ s.scale.plain ++ " for '" ++ s.pattern ++ "'")
  let transforms := c.transforms.filterMap fun t =>
    (NamePattern.issue? t.pattern).map fun i => .warning ("Ignoring transform: " ++ i.message)
  let lists := (c.order ++ c.fastest ++ c.disabled).filterMap fun p =>
    (NamePattern.issue? p).map fun i => .warning ("Ignoring " ++ i.message)
  align ++ scales ++ transforms ++ lists

end Config

end OutputArranger
