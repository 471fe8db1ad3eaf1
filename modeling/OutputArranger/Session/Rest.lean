import OutputArranger.Control.Reception
import OutputArranger.Session.Pass

/-!
# Coming to rest

A session whose requests are all carried out is at rest after some passes of the layout. On the
way it answers clients and sends requests.
-/

namespace OutputArranger

/-- What happened on the way to rest. -/
structure Rest where
  session : Session
  log : List Notice
  replies : List (Ticket × Reply)
  sent : List Request
deriving DecidableEq

/-- The event of what a client sent. -/
def Event.received (client : Ticket) (bytes : ByteArray) : Except ReceptionFault Event :=
  (ControlRequest.receive bytes).map fun r => .command r (some client)

namespace Session

/-- Passes of the layout, each followed by the success of the request that it sent, until a pass
leaves no request open. There are at most so many rounds. -/
def rest (s : Session) : Nat → Rest
  | 0 => ⟨s, [], [], []⟩
  | rounds + 1 =>
      let pass := s.layout .always
      if pass.session.transaction.isSome then
        let done := pass.session.handle (.resolved .succeeded)
        let later := done.session.rest rounds
        ⟨later.session, pass.log ++ done.log ++ later.log,
          pass.replies ++ done.replies ++ later.replies, pass.sent.toList ++ later.sent⟩
      else ⟨pass.session, pass.log, pass.replies, pass.sent.toList⟩

/-- How many rounds a session gets to come to rest. -/
def restRounds : Nat := 16

/-- Handles an event and comes to rest. -/
def handleToRest (s : Session) (e : Event) : Rest :=
  let step := s.handle e
  let rest := step.session.rest restRounds
  ⟨rest.session, step.log ++ rest.log, step.replies ++ rest.replies, rest.sent⟩

end Session

end OutputArranger
