import OutputArranger.Display.Connection
import OutputArranger.Session.Pass

/-!
# Turns of a session with a display

In a turn everything that the compositor has said is read and handled, and a pass of the layout
sends what is due over the same connection.
-/

namespace OutputArranger

/-- Why a turn was not completed. -/
inductive TurnFault where
  | unreadable
  | session (e : SessionError)
deriving DecidableEq

def TurnFault.message : TurnFault → String
  | .unreadable => readFault
  | .session e => e.message

/-- What came of a turn. -/
structure Turn where
  session : Session
  connection : DisplayConnection
  events : List Event
  sent : List ClientMessage
  replies : List (Ticket × Reply)
  log : List Notice
  fault : Option TurnFault
deriving DecidableEq

namespace Session

/-- A pass of the layout that sends its request over a connection, if it has one. -/
def layoutOver (s : Session) (c : DisplayConnection) : Pass × DisplayConnection.Submission :=
  let pass := s.layout fun r => (c.submit r).error
  match pass.sent with
  | some r => (pass, c.submit r)
  | none => (pass, ⟨c, [], none⟩)

/-- A turn. -/
def turn (s : Session) (c : DisplayConnection) : Turn :=
  let d := c.dispatch
  match d.events with
  | none => ⟨s, d.connection, [], d.sent, [], d.log, some .unreadable⟩
  | some events =>
      let step := s.handleAll events
      match step.error with
      | some e =>
          ⟨step.session, d.connection, events, d.sent, step.replies, d.log ++ step.log,
            some (.session e)⟩
      | none =>
          let (pass, submission) := step.session.layoutOver d.connection
          ⟨pass.session, submission.connection, events, d.sent ++ submission.sent,
            step.replies ++ pass.replies, d.log ++ step.log ++ pass.log,
            pass.error.map TurnFault.session⟩

end Session

end OutputArranger
