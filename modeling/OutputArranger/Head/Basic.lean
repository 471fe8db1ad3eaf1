import OutputArranger.Collection
import OutputArranger.Mode
import OutputArranger.Scale
import OutputArranger.Transform
import OutputArranger.Pattern.NamePattern

/-!
# Heads

A head is one output of the compositor: what was reported about it, what a pass of the layout
wants it to become, and which of its properties are part of a request that is still open.
-/

namespace OutputArranger

/-- The handle of a head. -/
structure HeadId where
  value : Nat
deriving DecidableEq

/-- How a handle is shown where nothing else is known of the head. -/
def HeadId.text (id : HeadId) : String := "HeadId(" ++ toString id.value ++ ")"

/-- The properties whose change is part of the open request. -/
structure Pending where
  mode : Bool
  scale : Bool
  enabled : Bool
  position : Bool
deriving DecidableEq

namespace Pending

def none : Pending := ⟨false, false, false, false⟩

def any (p : Pending) : Bool := p.mode || p.scale || p.enabled || p.position

/-- The properties of either. -/
def union (p q : Pending) : Pending :=
  ⟨p.mode || q.mode, p.scale || q.scale, p.enabled || q.enabled, p.position || q.position⟩

end Pending

/-- What a head should become. It is rebuilt from the reported state on every pass. -/
structure Desired where
  mode : Option ModeId
  scale : Scale
  enabled : Bool
  transform : Transform
  x : Int
  y : Int
  width : Int
  height : Int
deriving DecidableEq

def Desired.blank : Desired := ⟨none, .one, false, .normal, 0, 0, 0, 0⟩

structure Head where
  id : HeadId
  name : Option String
  description : Option String
  widthMm : Int
  heightMm : Int
  enabled : Bool
  currentMode : Option ModeId
  preferredMode : Option ModeId
  x : Int
  y : Int
  transform : Transform
  scale : Scale
  make : Option String
  model : Option String
  serialNumber : Option String
  lidClosed : Bool
  /-- Whether the fastest mode of the preferred resolution is wanted. -/
  wantsFastest : Bool
  /-- Modes that the compositor refused. -/
  failedModes : List ModeId
  /-- Whether the head has changed since the layout was last computed. -/
  dirty : Bool
  pending : Pending
  desired : Desired
  /-- Whether it has been said that the head has no usable mode. -/
  warnedNoMode : Bool
  modes : List Mode
deriving DecidableEq

namespace Head

/-- A head that has just been announced. -/
def blank (id : HeadId) : Head where
  id := id
  name := none
  description := none
  widthMm := 0
  heightMm := 0
  enabled := false
  currentMode := none
  preferredMode := none
  x := 0
  y := 0
  transform := .normal
  scale := .one
  make := none
  model := none
  serialNumber := none
  lidClosed := false
  wantsFastest := false
  failedModes := []
  dirty := true
  pending := .none
  desired := .blank
  warnedNoMode := false
  modes := []

/-- The name, or a stand-in for one. -/
def shownName (h : Head) : String := h.name.getD "???"

def mode? (h : Head) (id : ModeId) : Option Mode := h.modes.find? (·.id = id)

def updateMode (id : ModeId) (f : Mode → Mode) (h : Head) : Head :=
  { h with modes := updateFirst (·.id = id) f h.modes }

/-- Adds a mode; one that is there already stays as it is. -/
def addMode (id : ModeId) (h : Head) : Head :=
  if (h.mode? id).isSome then h else { h with modes := h.modes ++ [.blank id] }

/-- Makes a mode the only preferred one. A mode that the head does not offer changes nothing. -/
def setPreferred (id : ModeId) (h : Head) : Head :=
  if (h.mode? id).isSome then
    { h with
      modes := h.modes.map fun m => { m with preferred := decide (m.id = id) }
      preferredMode := some id }
  else h

/-- Forgets a handle if it is the one given. -/
def forget (id : ModeId) (o : Option ModeId) : Option ModeId := if o = some id then none else o

/-- Removes a mode with every reference to it. -/
def removeMode (id : ModeId) (h : Head) : Head :=
  if (h.mode? id).isSome then
    { h with
      modes := h.modes.eraseP (·.id = id)
      currentMode := forget id h.currentMode
      preferredMode := forget id h.preferredMode
      desired := { h.desired with mode := forget id h.desired.mode }
      failedModes := h.failedModes.filter (· ≠ id) }
  else h

def current? (h : Head) : Option Mode := h.currentMode.bind h.mode?

def desired? (h : Head) : Option Mode := h.desired.mode.bind h.mode?

/-- The modes that the compositor has not refused. -/
def usableModes (h : Head) : List Mode := h.modes.filter fun m => m.id ∉ h.failedModes

/-- Whether a pattern selects this head. -/
def isSelectedBy (h : Head) (pattern : String) : Bool :=
  NamePattern.selects pattern h.name h.description

/-- The starting point of a pass: what was last reported. -/
def resetDesired (h : Head) : Head :=
  { h with desired := ⟨h.currentMode, h.scale, h.enabled, h.transform, h.x, h.y, 0, 0⟩ }

@[simp] theorem desired_resetDesired (h : Head) : h.resetDesired.desired =
    ⟨h.currentMode, h.scale, h.enabled, h.transform, h.x, h.y, 0, 0⟩ := rfl

def isModeChanging (h : Head) : Bool :=
  h.desired.mode.isSome && h.desired.mode != h.currentMode

def isChanging (h : Head) : Bool :=
  h.isModeChanging || h.desired.enabled != h.enabled || h.desired.scale != h.scale ||
    h.desired.transform != h.transform || h.desired.x != h.x || h.desired.y != h.y

end Head

end OutputArranger
