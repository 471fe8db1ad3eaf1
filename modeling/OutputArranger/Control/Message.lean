import OutputArranger.Config.Json
import OutputArranger.Json.Reader
import OutputArranger.Json.Writer

/-!
# Messages of the control socket

A client asks for the state, for a change of the configuration, or for the configuration to be
written to its file. The answer carries data or an error.
-/

namespace OutputArranger

open Json (unique?)

/-- What a client asks for. -/
inductive ControlRequest where
  | getConfig
  | apply (command : ConfigCommand)
  | writeConfig
deriving DecidableEq

namespace ControlRequest

def toJson : ControlRequest → Json
  | .getConfig => .object [("command", .string "get_config")]
  | .apply command => .object [("command", .string "apply"), ("args", command.toJson)]
  | .writeConfig => .object [("command", .string "write_config")]

/-- The request of a command name and its arguments, of which only changes have any. -/
def ofParts? (name : String) (args : Option Json) : Option ControlRequest :=
  match name, args with
  | "get_config", none => some .getConfig
  | "get_config", some .null => some .getConfig
  | "write_config", none => some .writeConfig
  | "write_config", some .null => some .writeConfig
  | "apply", some j => (ConfigCommand.ofJson? j).map .apply
  | _, _ => none

/-- Arguments nested deeper than this cannot be kept. -/
def argsDepthLimit : Nat := 126

/-- Whether the arguments stand before the command, so that they have to be kept until it is
known. -/
def argsComeFirst (members : List (String × Json)) : Bool :=
  ((members.map (·.1)).find? fun key => key = "command" || key = "args") = some "args"

/-- The request of a JSON value. Members other than the command and its arguments are ignored. -/
def ofJson? : Json → Option ControlRequest
  | .array [name, args] => do ofParts? (← name.asName?) (some args)
  | .object members => do
      let name ← ← unique? "command" members
      let args ← unique? "args" members
      if argsComeFirst members && !args.all (·.canBeKept argsDepthLimit) then none
      ofParts? (← name.asName?) args
  | _ => none

/-- The text that a client sends. -/
def text (r : ControlRequest) : String := r.toJson.compact

/-- The request of a text. -/
def parse (text : String) : Option ControlRequest := (Json.parse text).bind ofJson?

/-- The request of the bytes of a text. What is not asked for may hold bytes that are none. -/
def ofBytes (bytes : ByteArray) : Option ControlRequest := (Json.ofBytes bytes).bind ofJson?

end ControlRequest

/-- The answer to a request. -/
inductive ControlResponse where
  | success (data : Json)
  | error (error : Json)

namespace ControlResponse

/-- An answer that only carries a message. -/
def failure (message : String) : ControlResponse := .error (.object [("message", .string message)])

def isSuccess : ControlResponse → Bool
  | .success _ => true
  | .error _ => false

def toJson : ControlResponse → Json
  | .success data => .object [("success", .object [("data", data)])]
  | .error e => .object [("error", .object [("error", e)])]

/-- Data nested deeper than this is refused. -/
def depthLimit : Nat := 125

/-- The payload of an answer: the only item of an array, or the member of this key. -/
def payload? (key : String) : Json → Option Json
  | .array [j] => some j
  | .object members => do ← unique? key members
  | _ => none

/-- Data as it is handed on: numbers within range, not nested too deep, and members sorted. -/
def data? (j : Json) : Option Json :=
  if j.canBeKept depthLimit then some j.canonical else none

def ofJson? (j : Json) : Option ControlResponse := do
  let (name, value) ← j.asMember?
  match name with
  | "success" => (do data? (← payload? "data" value)).map .success
  | "error" => (do data? (← payload? "error" value)).map .error
  | _ => none

def parse (text : String) : Option ControlResponse := (Json.parse text).bind ofJson?

/-- The message of an error, if it has one. -/
def message? : ControlResponse → Option String
  | .success _ => none
  | .error e => (e.get? "message").bind Json.asString?

end ControlResponse

end OutputArranger
