import OutputArranger.Outputs

/-!
# Requests to the compositor

All changes of one pass go out as one request. Only a change of mode goes alone, for the first
head that needs one, so that a mode that cannot be set holds nothing else up.
-/

namespace OutputArranger

/-- What one head shall become. -/
inductive HeadRequest where
  /-- On, in a new mode and otherwise unchanged. -/
  | mode (head : HeadId) (mode : ModeId)
  | enable (head : HeadId) (scale : Scale) (x y : Int) (transform : Transform)
  | disable (head : HeadId)
deriving DecidableEq

def HeadRequest.head : HeadRequest → HeadId
  | .mode h _ => h
  | .enable h _ _ _ _ => h
  | .disable h => h

/-- A request for the state that the compositor announced under a serial. -/
structure Request where
  serial : Nat
  heads : List HeadRequest
deriving DecidableEq

namespace Request

/-- The head and mode of a request for a change of mode. -/
def modeChange? (r : Request) : Option (HeadId × ModeId) :=
  match r.heads with
  | [.mode h m] => some (h, m)
  | _ => none

/-- What a changing head needs when no mode has to change. -/
def entryFor (h : Head) : HeadRequest :=
  if h.desired.enabled then
    .enable h.id h.desired.scale h.desired.x h.desired.y h.desired.transform
  else .disable h.id

/-- Whether a head needs a request for its mode. -/
def needsMode (h : Head) : Bool := h.desired.enabled && h.isModeChanging

/-- The request for what is left to change; none when nothing is. -/
def plan (heads : List Head) (serial : Nat) : Option Request :=
  let changing := heads.filter (·.isChanging)
  match changing with
  | [] => none
  | _ =>
      match changing.find? needsMode with
      | some h => h.desired.mode.map fun m => ⟨serial, [.mode h.id m]⟩
      | none => some ⟨serial, changing.map entryFor⟩

/-- The properties of a head that an entry changes. -/
def pendingFor (h : Head) : HeadRequest → Pending
  | .mode _ _ => ⟨true, false, !h.enabled, false⟩
  | .enable _ scale x y transform =>
      ⟨false, scale != h.scale, !h.enabled, x != h.x || y != h.y || transform != h.transform⟩
  | .disable _ => ⟨false, false, true, false⟩

/-- Marks what an entry changes. -/
def mark (o : Outputs) (entry : HeadRequest) : Outputs :=
  o.updateHead entry.head fun h => { h with pending := h.pending.union (pendingFor h entry) }

end Request

/-- What is remembered of the open request: the change of mode, if it is one. -/
structure Transaction where
  modeChange : Option (HeadId × ModeId)
deriving DecidableEq

/-- How the compositor answered a request. -/
inductive Outcome where
  | succeeded
  | failed
  | cancelled
deriving DecidableEq

namespace Transaction

/-- Begins the transaction of a request: what it changes is pending from now on. -/
def start (o : Outputs) (r : Request) : Outputs × Transaction :=
  (r.heads.foldl Request.mark o, ⟨r.modeChange?⟩)

/-- A mode that could not be set is not tried again, and what the head shows is no longer known. -/
def failMode (m : ModeId) (h : Head) : Head :=
  { h with failedModes := insertNew m h.failedModes, currentMode := none }

/-- The outputs after the open request was answered, and whether changes may still follow. After
too many failures in a row they are given up. -/
def resolve (o : Outputs) (modeChange : Option (HeadId × ModeId)) : Outcome → Outputs × Bool
  | .succeeded =>
      let o := { o.resetPending with retries := 0 }
      match modeChange with
      | none => (o, true)
      | some (h, m) => (o.updateHead h fun head => { head with currentMode := some m }, true)
  | outcome =>
      let o := o.resetPending
      let o := match outcome, modeChange with
        | .failed, some (h, m) => o.updateHead h (failMode m)
        | _, _ => o
      let o := o.countRetry
      if o.mayRetry then ({ o with dirty := true }, true) else (o.resetDirty, false)

/-- What is said about the answer to a request. -/
def resolveNotices (o : Outputs) (modeChange : Option (HeadId × ModeId)) :
    Outcome → List Notice
  | .succeeded => []
  | outcome =>
      let failure := match outcome, modeChange with
        | .failed, some (id, m) =>
            match o.head? id with
            | none => []
            | some h =>
                let shown := ((h.mode? m).map Mode.text).getD m.text
                [.error ("  " ++ h.shownName ++ ": mode " ++ shown ++ " failed")]
        | _, _ => []
      let retries := o.retries + 1
      failure ++
        (if retries ≤ maxRetries then
          [.info ("Retrying " ++ toString retries ++ "/" ++ toString maxRetries)]
        else [.error "Too many retries, abandoning changes"])

end Transaction

end OutputArranger
