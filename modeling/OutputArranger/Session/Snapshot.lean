import OutputArranger.Control.Message
import OutputArranger.Outputs

/-!
# Snapshots

What a client is told: the configuration in force, the lid, and the state of every head.
-/

namespace OutputArranger

/-- The state of one head, for people. -/
structure HeadSummary where
  name : Option String
  description : Option String
  enabled : Bool
  mode : Option String
  scale : Scale
  x : Int
  y : Int
  transform : Transform
  lidClosed : Bool
  failedModes : List String
deriving DecidableEq

namespace HeadSummary

def ofHead (h : Head) : HeadSummary where
  name := h.name
  description := h.description
  enabled := h.enabled
  mode := h.current?.map Mode.text
  scale := h.scale
  x := h.x
  y := h.y
  transform := h.transform
  lidClosed := h.lidClosed
  failedModes := (h.modes.filter fun m => m.id ∈ h.failedModes).map Mode.text

def toJson (s : HeadSummary) : Json :=
  .object
    [("name", .optionString s.name), ("description", .optionString s.description),
     ("enabled", .bool s.enabled), ("mode", .optionString s.mode),
     ("scale", .float s.scale.toFloat), ("x", .int s.x), ("y", .int s.y),
     ("transform", .string s.transform.name), ("lid_closed", .bool s.lidClosed),
     ("failed_modes", Config.strings s.failedModes)]

end HeadSummary

structure Snapshot where
  config : Config
  lidClosed : Option Bool
  heads : List HeadSummary
deriving DecidableEq

def Snapshot.toJson (s : Snapshot) : Json :=
  .object
    [("config", s.config.toJson),
     ("lid_closed", match s.lidClosed with
       | none => .null
       | some b => .bool b),
     ("heads", .array (s.heads.map HeadSummary.toJson))]

/-- The answer of a session to a control request. -/
inductive Reply where
  | success (snapshot : Snapshot)
  | failure (message : String)
deriving DecidableEq

def Reply.toResponse : Reply → ControlResponse
  | .success s => .success s.toJson
  | .failure m => .failure m

end OutputArranger
