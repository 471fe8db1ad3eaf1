import OutputArranger.Session.Event

/-!
# Requests and events as JSON

Every request and event is an object with one member, named for its kind. Events without anything
to tell are a bare name.
-/

namespace OutputArranger

def HeadId.toJson (h : HeadId) : Json := .nat h.value

def ModeId.toJson (m : ModeId) : Json := .nat m.value

/-- An object with one member. -/
def Json.member (name : String) (j : Json) : Json := .object [(name, j)]

/-- The head that an object names. -/
def HeadId.field? (j : Json) : Option HeadId := (j.nat? "head").map HeadId.mk

/-- The mode that an object names. -/
def ModeId.field? (j : Json) : Option ModeId := (j.nat? "mode").map ModeId.mk

/-- The transform that an object names. -/
def Transform.field? (j : Json) : Option Transform := (j.string? "transform").bind ofName?

namespace HeadRequest

def toJson : HeadRequest → Json
  | .mode h m => .member "Mode" (.object [("head", h.toJson), ("mode", m.toJson)])
  | .enable h s x y t => .member "Enable" (.object [("head", h.toJson), ("scale", .int s.raw),
      ("x", .int x), ("y", .int y), ("transform", .string t.name)])
  | .disable h => .member "Disable" (.object [("head", h.toJson)])

def ofJson? (j : Json) : Option HeadRequest := do
  let (kind, v) ← j.asMember?
  let h ← HeadId.field? v
  match kind with
  | "Mode" => return .mode h (← ModeId.field? v)
  | "Enable" =>
      return .enable h ⟨← v.int? "scale"⟩ (← v.int? "x") (← v.int? "y") (← Transform.field? v)
  | "Disable" => return .disable h
  | _ => none

end HeadRequest

namespace Request

def toJson (r : Request) : Json :=
  .object [("serial", .nat r.serial), ("heads", .array (r.heads.map HeadRequest.toJson))]

def ofJson? (j : Json) : Option Request := do
  let heads ← (j.get? "heads").bind Json.asArray?
  return ⟨← j.nat? "serial", ← heads.mapM HeadRequest.ofJson?⟩

end Request

namespace HeadReport

/-- The name of the event, and what it tells besides the head. -/
def parts : HeadReport → String × List (String × Json)
  | .name s => ("HeadName", [("name", .string s)])
  | .description s => ("HeadDescription", [("description", .string s)])
  | .physicalSize w h => ("HeadPhysicalSize", [("width_mm", .int w), ("height_mm", .int h)])
  | .enabled on => ("HeadEnabled", [("enabled", .bool on)])
  | .currentMode m => ("HeadCurrentMode", [("mode", m.toJson)])
  | .position x y => ("HeadPosition", [("x", .int x), ("y", .int y)])
  | .transform t => ("HeadTransform", [("transform", .string t.name)])
  | .scale s => ("HeadScale", [("scale", .int s.raw)])
  | .make s => ("HeadMake", [("make", .string s)])
  | .model s => ("HeadModel", [("model", .string s)])
  | .serialNumber s => ("HeadSerialNumber", [("serial_number", .string s)])

def ofParts? (kind : String) (v : Json) : Option HeadReport :=
  match kind with
  | "HeadName" => (v.string? "name").map .name
  | "HeadDescription" => (v.string? "description").map .description
  | "HeadPhysicalSize" => do return .physicalSize (← v.int? "width_mm") (← v.int? "height_mm")
  | "HeadEnabled" => (v.bool? "enabled").map .enabled
  | "HeadCurrentMode" => (ModeId.field? v).map .currentMode
  | "HeadPosition" => do return .position (← v.int? "x") (← v.int? "y")
  | "HeadTransform" => (Transform.field? v).map .transform
  | "HeadScale" => (v.int? "scale").map fun raw => .scale ⟨raw⟩
  | "HeadMake" => (v.string? "make").map .make
  | "HeadModel" => (v.string? "model").map .model
  | "HeadSerialNumber" => (v.string? "serial_number").map .serialNumber
  | _ => none

end HeadReport

namespace ModeReport

def parts : ModeReport → String × List (String × Json)
  | .size w h => ("ModeSize", [("width", .int w), ("height", .int h)])
  | .refresh rate => ("ModeRefresh", [("refresh_mhz", .int rate)])
  | .preferred => ("ModePreferred", [])

def ofParts? (kind : String) (v : Json) : Option ModeReport :=
  match kind with
  | "ModeSize" => do return .size (← v.int? "width") (← v.int? "height")
  | "ModeRefresh" => (v.int? "refresh_mhz").map .refresh
  | "ModePreferred" => some .preferred
  | _ => none

end ModeReport

namespace Outcome

def eventName : Outcome → String
  | .succeeded => "ConfigurationSucceeded"
  | .failed => "ConfigurationFailed"
  | .cancelled => "ConfigurationCancelled"

def ofEventName? (s : String) : Option Outcome :=
  [succeeded, failed, cancelled].find? fun o => o.eventName = s

end Outcome

namespace Event

/-- An event of a mode. -/
def modeJson (kind : String) (h : HeadId) (m : ModeId) (more : List (String × Json)) : Json :=
  .member kind (.object (("head", h.toJson) :: ("mode", m.toJson) :: more))

/-- The event without the client of a command. -/
def toJson : Event → Json
  | .headArrived h => .member "HeadArrived" h.toJson
  | .headReported h r => .member r.parts.1 (.object (("head", h.toJson) :: r.parts.2))
  | .headFinished h => .member "HeadFinished" h.toJson
  | .modeArrived h m => modeJson "ModeArrived" h m []
  | .modeReported h m r => modeJson r.parts.1 h m r.parts.2
  | .modeFinished h m => modeJson "ModeFinished" h m []
  | .managerDone serial => .member "ManagerDone" (.member "serial" (.nat serial))
  | .managerFinished => .string "ManagerFinished"
  | .resolved o => .string o.eventName
  | .configChanged c => .member "ConfigChanged" c.toJson
  | .lidChanged closed => .member "LidChanged" (.bool closed)
  | .command r _ => .member "Command" (.member "request" r.toJson)

/-- The event that an object with one member tells of. -/
def ofMember? (client : Option Ticket) (kind : String) (v : Json) : Option Event :=
  match kind with
  | "HeadArrived" => v.asNat?.map fun n => .headArrived ⟨n⟩
  | "HeadFinished" => v.asNat?.map fun n => .headFinished ⟨n⟩
  | "ModeArrived" => do return .modeArrived (← HeadId.field? v) (← ModeId.field? v)
  | "ModeFinished" => do return .modeFinished (← HeadId.field? v) (← ModeId.field? v)
  | "ManagerDone" => (v.nat? "serial").map .managerDone
  | "ConfigChanged" => (Config.ofJson? v).map .configChanged
  | "LidChanged" => v.asBool?.map .lidChanged
  | "Command" => ((v.get? "request").bind ControlRequest.ofJson?).map fun r => .command r client
  | _ =>
      match HeadReport.ofParts? kind v with
      | some r => (HeadId.field? v).map fun h => .headReported h r
      | none => do
          return .modeReported (← HeadId.field? v) (← ModeId.field? v)
            (← ModeReport.ofParts? kind v)

/-- The event of a value; a command comes from this client. -/
def ofJson? (client : Option Ticket) : Json → Option Event
  | .string "ManagerFinished" => some .managerFinished
  | .string s => (Outcome.ofEventName? s).map .resolved
  | j => do
      let (kind, v) ← j.asMember?
      ofMember? client kind v

end Event

end OutputArranger
