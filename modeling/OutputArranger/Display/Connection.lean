import OutputArranger.Display.Client
import OutputArranger.Files.Content

/-!
# The display connection

What the compositor says waits until it is read. Reading fails when the compositor has hung up or
reports an error, and from then on it fails always; what was read before is handled at the next
attempt.
-/

namespace OutputArranger

/-- Why a connection is of no use any more. -/
inductive ConnectionFailure where
  | hangup
  | protocol (code : Nat) (text : String)
deriving DecidableEq

/-- The compositor's own words about an error, or a description if it has none. -/
def ConnectionFailure.message : ConnectionFailure → String
  | .hangup => "Io error: " ++ systemFault
  | .protocol code text =>
      if text = "" then "Protocol error " ++ toString code ++ " on object wl_display@1" else text

structure DisplayConnection where
  client : DisplayClient
  /-- What the compositor has said and nobody has read. -/
  inbox : List CompositorMessage
  /-- What was read and not handled. -/
  unhandled : List CompositorMessage
  /-- Whether the compositor has hung up. -/
  closed : Bool
  failure : Option ConnectionFailure
deriving DecidableEq

/-- What comes of reading. -/
structure Dispatched where
  connection : DisplayConnection
  /-- The events, unless reading failed. -/
  events : Option (List Event)
  sent : List ClientMessage
  log : List Notice
deriving DecidableEq

/-- A new connection. -/
structure Connected where
  connection : DisplayConnection
  sent : List ClientMessage
  log : List Notice
deriving DecidableEq

/-- Why no connection comes about. -/
inductive ConnectFault where
  | noDisplay
  | roundtrip
  | noManager
deriving DecidableEq

def ConnectFault.message : ConnectFault → String
  | .noDisplay => "Could not connect to the Wayland display"
  | .roundtrip => "Wayland roundtrip failed"
  | .noManager => "compositor does not support " ++ DisplayClient.managerInterface

/-- That reading failed. -/
def readFault : String := "Wayland read failed"

namespace DisplayConnection

/-- Connects to a compositor that announces these globals. -/
def connect (globals : List CompositorMessage) : Except ConnectFault Connected :=
  let r := DisplayClient.start.handleAll globals
  match r.client.manager with
  | none => .error .noManager
  | some _ => .ok ⟨⟨r.client, [], [], false, none⟩, r.sent, r.log⟩

/-- Adds what the compositor says. -/
def receive (messages : List CompositorMessage) (c : DisplayConnection) : DisplayConnection :=
  if c.closed then c else { c with inbox := c.inbox ++ messages }

def close (c : DisplayConnection) : DisplayConnection := { c with closed := true }

/-- The messages in front of the first error, and that error. -/
def beforeFailure : List CompositorMessage → List CompositorMessage × Option ConnectionFailure
  | [] => ([], none)
  | .fatal code text :: _ => ([], some (.protocol code text))
  | m :: rest => (m :: (beforeFailure rest).1, (beforeFailure rest).2)

/-- Handles what was read before. -/
def handlePending (c : DisplayConnection) : DisplayConnection × List ClientMessage × List Notice :=
  let r := c.client.handleAll c.unhandled
  ({ c with client := r.client, unhandled := [] }, r.sent, r.log)

/-- Reads what the compositor has said. -/
def read (c : DisplayConnection) : DisplayConnection :=
  match c.failure with
  | some _ => c
  | none =>
      let (messages, failure) := beforeFailure c.inbox
      { c with
        inbox := []
        unhandled := c.unhandled ++ messages
        failure := failure <|> (if c.closed then some .hangup else none) }

/-- Messages reach the compositor while the connection is of use. -/
def delivered (c : DisplayConnection) (messages : List ClientMessage) : List ClientMessage :=
  if c.closed || c.failure.isSome then [] else messages

/-- Reads and handles everything that is there, and hands the events on. -/
def dispatch (c : DisplayConnection) : Dispatched :=
  let (c, sentBefore, logBefore) := c.handlePending
  let c := c.read
  match c.failure with
  | some _ => ⟨c, none, c.delivered sentBefore, logBefore⟩
  | none =>
      let (c, sent, log) := c.handlePending
      ⟨{ c with client := { c.client with events := [] } }, some c.client.events,
        sentBefore ++ sent, logBefore ++ log⟩

/-- Why a request that was written does not reach the compositor. -/
def writeFailure (c : DisplayConnection) : Option ConnectionFailure :=
  c.failure <|> (if c.closed then some .hangup else none)

/-- What comes of sending a request over the connection. -/
structure Submission where
  connection : DisplayConnection
  sent : List ClientMessage
  error : Option SessionError
deriving DecidableEq

/-- Sends a request. -/
def submit (c : DisplayConnection) (r : Request) : Submission :=
  let s := c.client.submit r
  let sent := c.delivered s.sent
  let c := { c with client := s.client }
  match s.error, c.writeFailure with
  | some e, _ => ⟨c, sent, some e⟩
  | none, some f => ⟨{ c with failure := some f }, sent, some (.compositor f.message)⟩
  | none, none => ⟨c, sent, none⟩

end DisplayConnection

end OutputArranger
