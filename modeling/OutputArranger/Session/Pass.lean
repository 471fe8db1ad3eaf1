import OutputArranger.Session.Basic

/-!
# Passes of the layout

A pass reports heads that came and went, decides what every head should become, and sends a
request if something is left to change. While a request is open nothing is sent; after a cancelled
one the compositor reports its state anew, and the pass waits for that.
-/

namespace OutputArranger

/-- The compositor's side of a pass: whether it takes a request, or why not. -/
abbrev Acceptance := Request → Option SessionError

/-- A compositor that takes every request. -/
def Acceptance.always : Acceptance := fun _ => none

/-- The result of a pass. -/
structure Pass where
  session : Session
  log : List Notice
  replies : List (Ticket × Reply)
  /-- The request that the compositor took. -/
  sent : Option Request
  error : Option SessionError
deriving DecidableEq

namespace Session

/-- Whether heads have come or gone since the last pass. -/
def hasNews (s : Session) : Bool := s.outputs.arrived != [] || s.outputs.departed != []

/-- What is said about heads that came and went. -/
def newsNotices (s : Session) : List Notice :=
  (s.outputs.arrived.filterMap fun id => (s.outputs.head? id).map (·.report .arrival)) ++
    s.outputs.departed.map DepartedHead.report

/-- The session once heads that came and went have been reported and the lid was looked at. -/
def refreshed (s : Session) : Session :=
  let s :=
    if s.hasNews then
      noteUserChange { s with outputs := s.outputs.clearArrived.clearDeparted }
    else s
  s.coverHeads

/-- Whether a pass has to compute the layout. -/
def isDue (s : Session) : Bool := s.ready && s.outputs.isDirty

/-- The session with what every head should become. -/
def desire (s : Session) : Session :=
  let clean := s.outputs.resetDirty
  { s with outputs := { clean with heads := Layout.desire s.config clean.heads } }

/-- What is said about the changes of a request. -/
def changeNotices (s : Session) (r : Request) : List Notice :=
  r.heads.filterMap fun entry => (s.outputs.head? entry.head).map (·.report .change)

/-- What clients are told once nothing is left to do. -/
def settledReply (s : Session) : Reply :=
  if s.abandoned then .failure "Changes could not be applied, abandoned after retries"
  else .success s.snapshot

/-- The end of a pass that leaves no request open: all clients that wait are answered. -/
def settle (s : Session) (log : List Notice) : Pass :=
  let s := { s with userChanges := false }
  ⟨{ s with awaiting := [] }, log, s.awaiting.map (·, s.settledReply), none, none⟩

/-- The end of a pass with a request. -/
def send (accepts : Acceptance) (s : Session) (log : List Notice) (r : Request) : Pass :=
  let log := log ++ s.changeNotices r
  match accepts r with
  | some e => ⟨s, log, [], none, some e⟩
  | none =>
      let (outputs, transaction) := Transaction.start s.outputs r
      ⟨{ s with
          outputs, transaction := some transaction, status := .outstanding, userChanges := false },
        log, [], some r, none⟩

/-- What is said about the answer to the last request. -/
def statusNotices : Status → List Notice
  | .succeeded => [.info "Changes successful"]
  | .failed => [.error "Changes failed"]
  | .cancelled => [.warning "Changes cancelled"]
  | _ => []

/-- The part of a pass in which a request may be sent. -/
def arrange (accepts : Acceptance) (s : Session) (log : List Notice) : Pass :=
  if s.isDue then
    let log := log ++ Layout.desireNotices s.config s.outputs.resetDirty.heads
    let s := s.desire
    match Request.plan s.outputs.heads s.outputs.serial with
    | some r => s.send accepts log r
    | none => s.settle (if s.userChanges then log ++ [.info "No changes needed"] else log)
  else s.settle log

/-- A pass of the layout. -/
def layout (accepts : Acceptance) (s : Session) : Pass :=
  let log := s.newsNotices ++ statusNotices s.status
  let s := s.refreshed
  match s.status with
  | .outstanding => ⟨s, log, [], none, none⟩
  | .cancelled => ⟨{ s with status := .idle }, log, [], none, none⟩
  | _ => ({ s with status := .idle }).arrange accepts log

end Session

end OutputArranger
