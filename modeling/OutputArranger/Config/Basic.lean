import OutputArranger.Transform
import OutputArranger.Number.Decimal

/-!
# Configuration

How outputs are arranged, and what the user wants of particular outputs. Outputs are named by
patterns for their name or description.
-/

namespace OutputArranger

/-- Whether heads stand side by side or one below the other. -/
inductive Arrange where
  | row
  | column
deriving DecidableEq

namespace Arrange

def name : Arrange → String
  | .row => "row"
  | .column => "column"

/-- The arrangement of a name; a column also has a short name. -/
def ofName? (s : String) : Option Arrange :=
  if s = "row" then some .row
  else if s = "column" ∨ s = "col" then some .column
  else none

/-- The name as it appears in reports of a change. -/
def title : Arrange → String
  | .row => "Row"
  | .column => "Column"

end Arrange

/-- Along which line heads of different sizes are aligned. -/
inductive Align where
  | top
  | middle
  | bottom
  | left
  | right
deriving DecidableEq

namespace Align

def name : Align → String
  | .top => "top"
  | .middle => "middle"
  | .bottom => "bottom"
  | .left => "left"
  | .right => "right"

def all : List Align := [.top, .middle, .bottom, .left, .right]

def ofName? (s : String) : Option Align := all.find? fun a => a.name = s

def title : Align → String
  | .top => "Top"
  | .middle => "Middle"
  | .bottom => "Bottom"
  | .left => "Left"
  | .right => "Right"

def defaultFor : Arrange → Align
  | .row => .top
  | .column => .left

/-- Whether the alignment makes sense across the direction of an arrangement. -/
def fits (a : Align) : Arrange → Bool
  | .row => a = .top || a = .middle || a = .bottom
  | .column => a = .left || a = .middle || a = .right

theorem defaultFor_fits (a : Arrange) : (defaultFor a).fits a = true := by cases a <;> rfl

end Align

/-- The least serious entries that the log shows. -/
inductive LogThreshold where
  | debug
  | info
  | warning
  | error
deriving DecidableEq

namespace LogThreshold

def name : LogThreshold → String
  | .debug => "debug"
  | .info => "info"
  | .warning => "warning"
  | .error => "error"

/-- The threshold of a name; warnings also have a short name. -/
def ofName? (s : String) : Option LogThreshold :=
  if s = "debug" then some .debug
  else if s = "info" then some .info
  else if s = "warning" ∨ s = "warn" then some .warning
  else if s = "error" then some .error
  else none

def title : LogThreshold → String
  | .debug => "Debug"
  | .info => "Info"
  | .warning => "Warning"
  | .error => "Error"

end LogThreshold

theorem Arrange.ofName?_name (a : Arrange) : Arrange.ofName? a.name = some a := by
  cases a <;> decide

theorem Align.ofName?_name (a : Align) : Align.ofName? a.name = some a := by
  cases a <;> decide

theorem LogThreshold.ofName?_name (t : LogThreshold) : LogThreshold.ofName? t.name = some t := by
  cases t <;> decide

/-- The scale that the user wants for the outputs of a pattern. -/
structure UserScale where
  pattern : String
  scale : Binary64
deriving DecidableEq

/-- The transform that the user wants for the outputs of a pattern. -/
structure UserTransform where
  pattern : String
  transform : Transform
deriving DecidableEq

structure Config where
  arrange : Arrange
  align : Align
  /-- Outputs that come first, in this order. -/
  order : List String
  /-- Whether a scale is derived from the size of a display where the user gives none. -/
  autoScale : Bool
  /-- Outputs that run at the highest refresh rate of their preferred resolution. -/
  fastest : List String
  disabled : List String
  /-- How the names of built-in displays begin. -/
  laptopPrefix : String
  threshold : LogThreshold
  scales : List UserScale
  transforms : List UserTransform
deriving DecidableEq

namespace Config

/-- The names of the settings, in their order in a record. -/
def settings : List String :=
  ["arrange", "align", "order", "auto_scale", "max_preferred_refresh", "disabled",
   "laptop_display_prefix", "log_threshold", "scale", "transform"]

def default : Config where
  arrange := .row
  align := .top
  order := []
  autoScale := true
  fastest := []
  disabled := []
  laptopPrefix := "eDP"
  threshold := .info
  scales := []
  transforms := []

/-- Whether two lists of scales name the same patterns and numerically equal scales. -/
def sameScales : List UserScale → List UserScale → Bool
  | [], [] => true
  | s :: ss, t :: ts => s.pattern == t.pattern && s.scale.same t.scale && sameScales ss ts
  | _, _ => false

/-- Whether two configurations ask for the same. A scale that is no number differs from itself. -/
def same (c d : Config) : Bool :=
  { c with scales := [] } == { d with scales := [] } && sameScales c.scales d.scales

end Config

end OutputArranger
