import OutputArranger.Config.Ron
import OutputArranger.Session.Event

/-!
# Events in record notation

Each event is named for its kind. Handles and scales stand in parentheses of their own.
-/

namespace OutputArranger

open Ron (Dialect unique? required?)

namespace ControlRequest

def toRon : ControlRequest → Ron
  | .getConfig => .record none [("command", .name "get_config")]
  | .apply command => .record none [("command", .name "apply"), ("args", command.toRon)]
  | .writeConfig => .record none [("command", .name "write_config")]

/-- Whether the arguments of a request that has none may be written like this. -/
def isNoArgument : Ron → Bool
  | .group none [] => true
  | .name "None" => true
  | _ => false

/-- The request of a record with a command and its arguments. Other fields are ignored. -/
def ofRon? (d : Dialect) (v : Ron) : Option ControlRequest := do
  let fields ← d.fields? "Request" v
  let name ← (← required? "command" fields).asName?
  let args ← unique? "args" fields
  match name, args with
  | "get_config", none => some .getConfig
  | "get_config", some a => if isNoArgument a then some .getConfig else none
  | "write_config", none => some .writeConfig
  | "write_config", some a => if isNoArgument a then some .writeConfig else none
  | "apply", some a => (ConfigCommand.ofRon? d a).map .apply
  | _, _ => none

end ControlRequest

namespace Event

def wrapped (n : Nat) : Ron := .group none [.ofInt n]

def headField (h : HeadId) : String × Ron := ("head", wrapped h.value)

def modeField (m : ModeId) : String × Ron := ("mode", wrapped m.value)

/-- The name of a report of a head, and what it reports. -/
def headReport : HeadReport → String × List (String × Ron)
  | .name s => ("HeadName", [("name", .string s)])
  | .description s => ("HeadDescription", [("description", .string s)])
  | .physicalSize w h => ("HeadPhysicalSize", [("width_mm", .ofInt w), ("height_mm", .ofInt h)])
  | .enabled on => ("HeadEnabled", [("enabled", .ofBool on)])
  | .currentMode m => ("HeadCurrentMode", [modeField m])
  | .position x y => ("HeadPosition", [("x", .ofInt x), ("y", .ofInt y)])
  | .transform t => ("HeadTransform", [("transform", .name t.name)])
  | .scale s => ("HeadScale", [("scale", .group none [.ofInt s.raw])])
  | .make s => ("HeadMake", [("make", .string s)])
  | .model s => ("HeadModel", [("model", .string s)])
  | .serialNumber s => ("HeadSerialNumber", [("serial_number", .string s)])

/-- The name of a report of a mode, and what it reports. -/
def modeReport : ModeReport → String × List (String × Ron)
  | .size w h => ("ModeSize", [("width", .ofInt w), ("height", .ofInt h)])
  | .refresh rate => ("ModeRefresh", [("refresh_mhz", .ofInt rate)])
  | .preferred => ("ModePreferred", [])

/-- The value of an event. The client of a control request is no part of it. -/
def toRon : Event → Ron
  | .headArrived h => .group (some "HeadArrived") [wrapped h.value]
  | .headReported h r =>
      let (name, fields) := headReport r
      .record (some name) (headField h :: fields)
  | .headFinished h => .group (some "HeadFinished") [wrapped h.value]
  | .modeArrived h m => .record (some "ModeArrived") [headField h, modeField m]
  | .modeReported h m r =>
      let (name, fields) := modeReport r
      .record (some name) (headField h :: modeField m :: fields)
  | .modeFinished h m => .record (some "ModeFinished") [headField h, modeField m]
  | .managerDone serial => .record (some "ManagerDone") [("serial", .ofInt serial)]
  | .managerFinished => .name "ManagerFinished"
  | .resolved .succeeded => .name "ConfigurationSucceeded"
  | .resolved .failed => .name "ConfigurationFailed"
  | .resolved .cancelled => .name "ConfigurationCancelled"
  | .configChanged c => .group (some "ConfigChanged") [c.toRon]
  | .lidChanged closed => .group (some "LidChanged") [.ofBool closed]
  | .command r _ => .record (some "Command") [("request", r.toRon)]

/-- An event without anything in it. -/
def ofName? : String → Option Event
  | "ManagerFinished" => some .managerFinished
  | "ConfigurationSucceeded" => some (.resolved .succeeded)
  | "ConfigurationFailed" => some (.resolved .failed)
  | "ConfigurationCancelled" => some (.resolved .cancelled)
  | _ => none

def headOf? (d : Dialect) (v : Ron) : Option HeadId := do
  some ⟨← (← d.inner? "HeadId" v).asNat32?⟩

def modeOf? (d : Dialect) (v : Ron) : Option ModeId := do
  some ⟨← (← d.inner? "ModeId" v).asNat32?⟩

/-- An event that holds one value. -/
def ofVariant? (d : Dialect) (name : String) (held : Ron) : Option Event :=
  match name with
  | "HeadArrived" => (headOf? d held).map .headArrived
  | "HeadFinished" => (headOf? d held).map .headFinished
  | "ConfigChanged" => (Config.ofRon? d held).map .configChanged
  | "LidChanged" => held.asBool?.map .lidChanged
  | _ => none

/-- What is reported of a head. -/
def headReportOf? (d : Dialect) (name : String) (fields : List (String × Ron)) :
    Option HeadReport := do
  let text (key : String) : Option String := (required? key fields).bind Ron.asString?
  let int (key : String) : Option Int := (required? key fields).bind Ron.asInt32?
  match name with
  | "HeadName" => (text "name").map .name
  | "HeadDescription" => (text "description").map .description
  | "HeadPhysicalSize" => some (.physicalSize (← int "width_mm") (← int "height_mm"))
  | "HeadEnabled" => some (.enabled (← (← required? "enabled" fields).asBool?))
  | "HeadCurrentMode" => some (.currentMode (← modeOf? d (← required? "mode" fields)))
  | "HeadPosition" => some (.position (← int "x") (← int "y"))
  | "HeadTransform" =>
      let name ← (← required? "transform" fields).asName?
      (Transform.ofName? name).map .transform
  | "HeadScale" =>
      let raw ← (← d.inner? "Scale" (← required? "scale" fields)).asInt32?
      some (.scale ⟨raw⟩)
  | "HeadMake" => (text "make").map .make
  | "HeadModel" => (text "model").map .model
  | "HeadSerialNumber" => (text "serial_number").map .serialNumber
  | _ => none

/-- What is reported of a mode. -/
def modeReportOf? (name : String) (fields : List (String × Ron)) : Option ModeReport := do
  let int (key : String) : Option Int := (required? key fields).bind Ron.asInt32?
  match name with
  | "ModeSize" => some (.size (← int "width") (← int "height"))
  | "ModeRefresh" => (int "refresh_mhz").map .refresh
  | "ModePreferred" => some .preferred
  | _ => none

/-- An event with fields. Unknown fields are ignored. -/
def ofFields? (d : Dialect) (name : String) (fields : List (String × Ron)) : Option Event := do
  match name with
  | "ManagerDone" => some (.managerDone (← (← required? "serial" fields).asNat32?))
  | "Command" =>
      let r ← ControlRequest.ofRon? d (← required? "request" fields)
      some (.command r none)
  | _ =>
      let head ← headOf? d (← required? "head" fields)
      match headReportOf? d name fields with
      | some r => some (.headReported head r)
      | none =>
          let mode ← modeOf? d (← required? "mode" fields)
          match name with
          | "ModeArrived" => some (.modeArrived head mode)
          | "ModeFinished" => some (.modeFinished head mode)
          | _ => (modeReportOf? name fields).map (.modeReported head mode)

/-- The event of a value. -/
def ofRon? (d : Dialect) (v : Ron) : Option Event :=
  let single := do
    let (name, held) ← d.variant? v
    ofVariant? d name held
  match v with
  | .name n => ofName? n
  | .record (some n) fields => single.orElse fun _ => ofFields? d n fields
  | _ => single

end Event

end OutputArranger
