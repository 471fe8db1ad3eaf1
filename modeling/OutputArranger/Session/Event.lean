import OutputArranger.Control.Message
import OutputArranger.Request

/-!
# Events

Everything that happens to a session: what the compositor announces and reports, how it answers
requests, what the user changes, and what clients ask for.
-/

namespace OutputArranger

/-- A reported property of a head. -/
inductive HeadReport where
  | name (text : String)
  | description (text : String)
  | physicalSize (widthMm heightMm : Int)
  | enabled (on : Bool)
  | currentMode (mode : ModeId)
  | position (x y : Int)
  | transform (t : Transform)
  | scale (s : Scale)
  | make (text : String)
  | model (text : String)
  | serialNumber (text : String)
deriving DecidableEq

/-- A reported property of a mode. -/
inductive ModeReport where
  | size (width height : Int)
  | refresh (rate : Int)
  | preferred
deriving DecidableEq

/-- The number by which the answer to a request finds the client that waits for it. -/
abbrev Ticket := Nat

inductive Event where
  | headArrived (head : HeadId)
  | headReported (head : HeadId) (report : HeadReport)
  | headFinished (head : HeadId)
  | modeArrived (head : HeadId) (mode : ModeId)
  | modeReported (head : HeadId) (mode : ModeId) (report : ModeReport)
  | modeFinished (head : HeadId) (mode : ModeId)
  /-- The compositor has reported a consistent state under this serial. -/
  | managerDone (serial : Nat)
  | managerFinished
  /-- The compositor has answered the open request. -/
  | resolved (outcome : Outcome)
  | configChanged (config : Config)
  | lidChanged (closed : Bool)
  | command (request : ControlRequest) (client : Option Ticket)
deriving DecidableEq

/-- Why a session cannot go on, or a request cannot be sent. -/
inductive SessionError where
  | managerFinished
  | noOutputManager
  | headNotFound (head : HeadId)
  | modeNotFound (head : HeadId) (mode : ModeId)
  | compositor (reason : String)
deriving DecidableEq

def SessionError.message : SessionError → String
  | .managerFinished => "Output manager finished"
  | .noOutputManager => "No output manager available"
  | .headNotFound h => "Head not found: " ++ h.text
  | .modeNotFound h m => "Mode " ++ m.text ++ " not found on head " ++ h.text
  | .compositor reason => "Compositor request failed: " ++ reason

namespace Head

/-- The head after a report. A report of what is part of the open request is expected and leaves
the head clean; any other makes it dirty. -/
def reported (h : Head) : HeadReport → Head
  | .name s => { h with name := some s, dirty := true }
  | .description s => { h with description := some s, dirty := true }
  | .physicalSize w t => { h with widthMm := w, heightMm := t, dirty := true }
  | .enabled on =>
      { h with enabled := on, dirty := !h.pending.enabled || on == h.lidClosed }
  | .currentMode m => { h with currentMode := some m, dirty := true }
  | .position x y => { h with x, y, dirty := !h.pending.position }
  | .transform t => { h with transform := t, dirty := true }
  | .scale s => { h with scale := s, dirty := !h.pending.scale }
  | .make s => { h with make := some s, dirty := true }
  | .model s => { h with model := some s, dirty := true }
  | .serialNumber s => { h with serialNumber := some s, dirty := true }

end Head

end OutputArranger
