import OutputArranger.Config.File
import OutputArranger.Layout.Desire
import OutputArranger.Session.Event
import OutputArranger.Session.Snapshot

/-!
# Sessions

A session holds the outputs, the configuration and the open request, and is moved on by events.
After the events that arrived together, a pass of the layout decides whether a request is due.
Everything a step says or answers is part of its result.
-/

namespace OutputArranger

/-- How far the changes of a session have got. -/
inductive Status where
  | idle
  | outstanding
  | succeeded
  | failed
  | cancelled
deriving DecidableEq

def Status.name : Status → String
  | .idle => "IDLE"
  | .outstanding => "OUTSTANDING"
  | .succeeded => "SUCCEEDED"
  | .failed => "FAILED"
  | .cancelled => "CANCELLED"

def Status.ofOutcome : Outcome → Status
  | .succeeded => .succeeded
  | .failed => .failed
  | .cancelled => .cancelled

/-- What has been recorded of a session: the configuration it began with and its events. -/
structure Recording where
  config : Config
  events : Array Event
deriving DecidableEq

/-- The state of a session between two events. -/
structure Session where
  outputs : Outputs
  config : Config
  /-- Whether the lid is closed; unknown when there is no lid. -/
  lidClosed : Option Bool
  status : Status
  transaction : Option Transaction
  configFile : ConfigFile
  recording : Option Recording
  /-- The clients that wait for the layout to settle, in the order in which they came. -/
  awaiting : List Ticket
  /-- Whether the compositor has reported a consistent state yet. -/
  ready : Bool
  /-- Whether something outside of the session has changed since the last pass. -/
  userChanges : Bool
  /-- Whether the last changes were given up. -/
  abandoned : Bool
deriving DecidableEq

/-- The result of handling an event. -/
structure Step where
  session : Session
  log : List Notice
  replies : List (Ticket × Reply)
  error : Option SessionError
deriving DecidableEq

namespace Session

/-- A session without outputs. -/
def start (config : Config) (file : ConfigFile) (recorded : Bool) : Session where
  outputs := .empty
  config := config
  lidClosed := none
  status := .idle
  transaction := none
  configFile := file
  recording := if recorded then some ⟨config, #[]⟩ else none
  awaiting := []
  ready := false
  userChanges := false
  abandoned := false

def snapshot (s : Session) : Snapshot :=
  ⟨s.config, s.lidClosed, s.outputs.heads.map HeadSummary.ofHead⟩

/-- Whether no request is open and none is due. -/
def isSettled (s : Session) : Bool := s.status != .outstanding && !s.outputs.isDirty

/-- The control requests leave no trace of the client in a recording. -/
def recordable : Event → Event
  | .command r _ => .command r none
  | e => e

/-- Adds an event to the recording, if there is one. -/
def record (e : Event) (s : Session) : Session :=
  { s with recording := s.recording.map fun r => { r with events := r.events.push (recordable e) } }

/-- Something outside has changed: failed attempts no longer count. -/
def noteUserChange (s : Session) : Session :=
  { s with userChanges := true, abandoned := false, outputs := { s.outputs with retries := 0 } }

/-- Takes over a configuration. -/
def adopt (c : Config) (s : Session) : Session :=
  noteUserChange { s with config := c, outputs := { s.outputs with dirty := true } }

/-- Whether a head is a built-in display: its name begins as the configuration says. -/
def isPanel (c : Config) (h : Head) : Bool :=
  c.laptopPrefix ≠ "" && h.name.any fun n => c.laptopPrefix.toList.isPrefixOf n.toList

/-- Whether the lid covers a head. -/
def isCovered (c : Config) (lidClosed : Option Bool) (h : Head) : Bool :=
  lidClosed.getD false && isPanel c h

/-- Tells a head whether the lid covers it. -/
def coverHead (c : Config) (lidClosed : Option Bool) (h : Head) : Head :=
  if h.lidClosed = isCovered c lidClosed h then h
  else { h with lidClosed := isCovered c lidClosed h, dirty := true }

/-- Tells every head whether the lid covers it. -/
def coverHeads (s : Session) : Session :=
  { s with outputs := s.outputs.mapHeads (coverHead s.config s.lidClosed) }

/-- Whether the lid covers other heads than before. -/
def coverChanges (s : Session) : Bool :=
  s.outputs.heads.any fun h => h.lidClosed != isCovered s.config s.lidClosed h

/-- Whether the head exists that an event is about. -/
def knows (s : Session) (id : HeadId) : Bool := (s.outputs.head? id).isSome

def updateHead (id : HeadId) (f : Head → Head) (s : Session) : Session :=
  { s with outputs := s.outputs.updateHead id f }

/-- The warning about an event of an unknown head, or what is said about it otherwise. -/
def aboutHead (s : Session) (id : HeadId) (say : Head → List Notice) : List Notice :=
  match s.outputs.head? id with
  | none => [.warning ("event for unknown head " ++ id.text)]
  | some h => say h

/-- What is said about a report of a head. -/
def headNotices (r : HeadReport) (h : Head) : List Notice :=
  match r with
  | .currentMode m =>
      if (h.mode? m).isSome then []
      else [.warning (h.shownName ++ ": current mode " ++ m.text ++ " is not one of its modes")]
  | _ => []

/-- The mode after a report. -/
def reportedMode (r : ModeReport) (m : Mode) : Mode :=
  match r with
  | .size w h => { m with width := w, height := h }
  | .refresh rate => { m with refresh := rate }
  | .preferred => m

/-- The head after a report of one of its modes. -/
def reportMode (id : ModeId) (r : ModeReport) (h : Head) : Head :=
  match r with
  | .preferred => h.setPreferred id
  | r => h.updateMode id (reportedMode r)

/-- What is said about a report of a mode. -/
def modeNotices (id : ModeId) (r : ModeReport) (h : Head) : List Notice :=
  if (h.mode? id).isSome then []
  else match r with
    | .size _ _ => [.warning ("size for unknown mode " ++ id.text)]
    | .refresh _ => [.warning ("refresh for unknown mode " ++ id.text)]
    | .preferred => []

/-- The head after a mode arrived. -/
def arriveMode (id : ModeId) (h : Head) : Head :=
  { h.addMode id with dirty := !h.pending.mode }

/-- The head after a mode was withdrawn. -/
def finishMode (id : ModeId) (h : Head) : Head :=
  if (h.mode? id).isSome then { h.removeMode id with dirty := true } else h

/-- A step that neither answers anybody nor fails. -/
def quiet (s : Session) (log : List Notice) : Step := ⟨s, log, [], none⟩

/-- What is said about an answer to no request. -/
def strayNotice : Notice := .warning "configuration outcome without an outstanding transaction"

/-- The session after the compositor answered. -/
def resolve (s : Session) (outcome : Outcome) : Step :=
  let modeChange := s.transaction.bind (·.modeChange)
  let (outputs, goesOn) := Transaction.resolve s.outputs modeChange outcome
  let stray := if s.transaction.isSome then [] else [strayNotice]
  quiet
    { s with outputs, transaction := none, abandoned := !goesOn, status := .ofOutcome outcome }
    (stray ++ Transaction.resolveNotices s.outputs modeChange outcome)

/-- The session after the configuration file changed. What a session wrote itself comes back equal
and changes nothing. -/
def changeConfig (s : Session) (c : Config) : Step :=
  if c.same s.config then quiet s [] else quiet (s.adopt c) [.info "Configuration reloaded"]

/-- The session after the lid was opened or closed. -/
def changeLid (s : Session) (closed : Bool) : Step :=
  if s.lidClosed = some closed then quiet s []
  else
    let moved := { s with lidClosed := some closed }
    let covered := moved.coverHeads
    quiet (if moved.coverChanges then covered.noteUserChange else covered)
      [.info (if closed then "Lid closed" else "Lid opened")]

/-- The answer to a client, if there is one. -/
def answer (client : Option Ticket) (r : Reply) : List (Ticket × Reply) :=
  (client.map (·, r)).toList

/-- The session after a control request. An accepted change is answered once the layout has
settled, everything else at once. -/
def control (s : Session) (r : ControlRequest) (client : Option Ticket) : Step :=
  let asked : Notice := .info "control request"
  match r with
  | .getConfig => ⟨s, [asked], answer client (.success s.snapshot), none⟩
  | .apply command =>
      let said := asked :: s.config.commandNotices command
      match s.config.apply command with
      | .ok c =>
          let s := s.adopt c
          quiet { s with awaiting := s.awaiting ++ client.toList } said
      | .error refusal =>
          ⟨s, said ++ [.warning ("Rejected configuration change: " ++ refusal.message)],
            answer client (.failure refusal.message), none⟩
  | .writeConfig =>
      if s.configFile.writable then
        let s := { s with configFile := s.configFile.write s.config }
        ⟨s, [asked, .info ("Wrote " ++ s.configFile.path)], answer client (.success s.snapshot),
          none⟩
      else
        let fault := s.configFile.writeFault
        ⟨s, [asked, .error ("Failed to write configuration: " ++ fault)],
          answer client (.failure fault), none⟩

/-- Handles an event, not counting its place in the recording. -/
def react (s : Session) : Event → Step
  | .headArrived id => quiet { s with outputs := s.outputs.addHead id } []
  | .headReported id r => quiet (s.updateHead id (·.reported r)) (s.aboutHead id (headNotices r))
  | .headFinished id =>
      quiet { s with outputs := s.outputs.removeHead id }
        (if s.knows id then [] else [.warning ("finished event for unknown head " ++ id.text)])
  | .modeArrived id m => quiet (s.updateHead id (arriveMode m)) (s.aboutHead id fun _ => [])
  | .modeReported id m r =>
      quiet (s.updateHead id (reportMode m r)) (s.aboutHead id (modeNotices m r))
  | .modeFinished id m => quiet (s.updateHead id (finishMode m)) (s.aboutHead id fun _ => [])
  | .managerDone serial =>
      quiet { s with outputs := { s.outputs with serial }, ready := true } []
  | .managerFinished => ⟨s, [], [], some .managerFinished⟩
  | .resolved outcome => s.resolve outcome
  | .configChanged c => s.changeConfig c
  | .lidChanged closed => s.changeLid closed
  | .command r client => s.control r client

/-- Handles an event. It is recorded first, whatever comes of it. -/
def handle (s : Session) (e : Event) : Step := (s.record e).react e

/-- Handles events one after another, up to the first that fails. -/
def handleAll (s : Session) : List Event → Step
  | [] => quiet s []
  | e :: rest =>
      let first := s.handle e
      match first.error with
      | some _ => first
      | none =>
          let others := first.session.handleAll rest
          { others with
            log := first.log ++ others.log
            replies := first.replies ++ others.replies }

end Session

end OutputArranger
