import OutputArranger.Display.Message
import OutputArranger.Session.Event

/-!
# The client of a display

The client binds the manager of outputs, keeps track of the heads and modes that the compositor has
announced and not withdrawn, and turns what it is told into events. A request becomes a
configuration that names those heads and modes.
-/

namespace OutputArranger

/-- A head for which the client holds an object. -/
structure KnownHead where
  id : HeadId
  version : Nat
deriving DecidableEq

/-- A mode for which the client holds an object, with the head that announced it. -/
structure KnownMode where
  id : ModeId
  owner : HeadId
  version : Nat
deriving DecidableEq

structure DisplayClient where
  /-- The name under which the manager was bound, while there is one. -/
  manager : Option Nat
  /-- The version in which the manager was bound last. -/
  version : Nat
  heads : List KnownHead
  modes : List KnownMode
  /-- Heads that were given back. Nothing that is still said about them counts. -/
  givenBack : List HeadId
  /-- Events that have not been handed on yet. -/
  events : List Event
  /-- How many configurations were made so far. -/
  made : Nat
  /-- The configurations that were not destroyed. -/
  configurations : List Nat
deriving DecidableEq

/-- What comes of a message. -/
structure DisplayReaction where
  client : DisplayClient
  sent : List ClientMessage
  log : List Notice
deriving DecidableEq

namespace DisplayClient

/-- The interface of the manager of outputs. -/
def managerInterface : String := "zwlr_output_manager_v1"

/-- The newest version of it that the client can use. -/
def managerVersion : Nat := 4

/-- Objects of this version and later can be given back. -/
def releaseVersion : Nat := 3

def start : DisplayClient := ⟨none, 0, [], [], [], [], 0, []⟩

def quiet (c : DisplayClient) : DisplayReaction := ⟨c, [], []⟩

/-- Queues an event. -/
def push (e : Event) (c : DisplayClient) : DisplayClient := { c with events := c.events ++ [e] }

def knownHead? (c : DisplayClient) (id : HeadId) : Option KnownHead := c.heads.find? (·.id = id)

def knownMode? (c : DisplayClient) (id : ModeId) : Option KnownMode := c.modes.find? (·.id = id)

/-- The transform of a code, and what is said about a code that stands for none. -/
def transformOf (code : Nat) : Transform × List Notice :=
  match Transform.ofCode? code with
  | some t => (t, [])
  | none => (.normal, [.warning ("unknown transform Unknown(" ++ toString code ++ ")")])

/-- Adds a head; one of the same number is replaced. A number that was given back stands for the new
head from now on. -/
def addHead (id : HeadId) (c : DisplayClient) : DisplayClient :=
  { c with
    heads := c.heads.filter (·.id ≠ id) ++ [⟨id, c.version⟩]
    givenBack := c.givenBack.filter (· ≠ id) }

/-- Adds a mode; one of the same number is replaced. -/
def addMode (id : ModeId) (owner : HeadId) (c : DisplayClient) : DisplayClient :=
  let version := ((c.knownHead? owner).map (·.version)).getD c.version
  { c with modes := c.modes.filter (·.id ≠ id) ++ [⟨id, owner, version⟩] }

/-- Drops a head with all of its modes. -/
def dropHead (id : HeadId) (c : DisplayClient) : DisplayClient :=
  { c with heads := c.heads.filter (·.id ≠ id), modes := c.modes.filter (·.owner ≠ id) }

def dropMode (id : ModeId) (c : DisplayClient) : DisplayClient :=
  { c with modes := c.modes.filter (·.id ≠ id) }

/-- Whether a head can be given back; older versions have no message for it. -/
def canRelease (c : DisplayClient) (id : HeadId) : Bool :=
  (c.knownHead? id).any fun h => decide (releaseVersion ≤ h.version)

/-- Forgets a head that has gone and gives it back if that is possible. -/
def finishHead (c : DisplayClient) (id : HeadId) : DisplayReaction :=
  let gone := (c.dropHead id).push (.headFinished id)
  if c.canRelease id then
    ⟨{ gone with givenBack := id :: gone.givenBack }, [.releaseHead id], []⟩
  else quiet gone

/-- Reports a property of a head. -/
def report (c : DisplayClient) (id : HeadId) (r : HeadReport) : DisplayReaction :=
  quiet (c.push (.headReported id r))

/-- What a message about a head leads to. -/
def handleHead (c : DisplayClient) (id : HeadId) : HeadMessage → DisplayReaction
  | .name bytes => c.report id (.name (Utf8.lossyText bytes))
  | .description bytes => c.report id (.description (Utf8.lossyText bytes))
  | .physicalSize w h => c.report id (.physicalSize w h)
  | .mode m => quiet ((c.addMode m id).push (.modeArrived id m))
  | .enabled flag => c.report id (.enabled (flag != 0))
  | .currentMode m => c.report id (.currentMode m)
  | .position x y => c.report id (.position x y)
  | .transform code =>
      let (t, log) := transformOf code
      { c.report id (.transform t) with log }
  | .scale raw => c.report id (.scale ⟨raw⟩)
  | .make bytes => c.report id (.make (Utf8.lossyText bytes))
  | .model bytes => c.report id (.model (Utf8.lossyText bytes))
  | .serialNumber bytes => c.report id (.serialNumber (Utf8.lossyText bytes))
  | .adaptiveSync _ => quiet c
  | .finished => c.finishHead id

/-- What a message about a mode leads to; nothing when the mode has gone with its head. -/
def handleMode (c : DisplayClient) (id : ModeId) (message : ModeMessage) : DisplayReaction :=
  match c.knownMode? id with
  | none => quiet c
  | some m =>
      match message with
      | .size w h => quiet (c.push (.modeReported m.owner id (.size w h)))
      | .refresh rate => quiet (c.push (.modeReported m.owner id (.refresh rate)))
      | .preferred => quiet (c.push (.modeReported m.owner id .preferred))
      | .finished =>
          ⟨(c.dropMode id).push (.modeFinished m.owner id),
            if releaseVersion ≤ m.version then [.releaseMode id] else [], []⟩

/-- What a message leads to. -/
def handle (c : DisplayClient) : CompositorMessage → DisplayReaction
  | .global name interface version =>
      if interface = managerInterface ∧ c.manager = none then
        let version := min version managerVersion
        ⟨{ c with manager := some name, version }, [.bind name interface version],
          [.debug ("binding " ++ interface ++ " v" ++ toString version)]⟩
      else quiet c
  | .globalRemove name =>
      if c.manager = some name then
        ⟨{ c with manager := none }.push .managerFinished, [],
          [.error (managerInterface ++ " global removed")]⟩
      else quiet c
  | .newHead id => quiet ((c.addHead id).push (.headArrived id))
  | .head id message => if id ∈ c.givenBack then quiet c else c.handleHead id message
  | .mode id message => c.handleMode id message
  | .done serial => quiet (c.push (.managerDone serial))
  | .finished => quiet ({ c with manager := none }.push .managerFinished)
  | .outcome n o =>
      ⟨{ c with configurations := c.configurations.filter (· ≠ n) }.push (.resolved o),
        if n ∈ c.configurations then [.destroy n] else [], []⟩
  | .fatal _ _ => quiet c

/-- Handles messages in order. -/
def handleAll (c : DisplayClient) : List CompositorMessage → DisplayReaction
  | [] => quiet c
  | m :: rest =>
      let first := c.handle m
      let later := first.client.handleAll rest
      ⟨later.client, first.sent ++ later.sent, first.log ++ later.log⟩

/-- The messages for one entry of a request, or what it names that is not there. -/
def entryMessages (c : DisplayClient) (entry : HeadRequest) :
    Except SessionError (List ClientMessage) :=
  match c.knownHead? entry.head with
  | none => .error (.headNotFound entry.head)
  | some _ =>
      match entry with
      | .mode h m =>
          if (c.knownMode? m).isSome then .ok [.enableHead h, .setMode m]
          else .error (.modeNotFound h m)
      | .enable h scale x y t =>
          .ok [.enableHead h, .setScale scale.raw, .setPosition x y, .setTransform t.code]
      | .disable h => .ok [.disableHead h]

/-- The messages for the entries of a request, up to the first that cannot be sent. -/
def configure (c : DisplayClient) : List HeadRequest → List ClientMessage × Option SessionError
  | [] => ([], none)
  | entry :: rest =>
      match c.entryMessages entry with
      | .error e => ([], some e)
      | .ok messages =>
          let (later, e) := c.configure rest
          (messages ++ later, e)

/-- What comes of sending a request. -/
structure Submission where
  client : DisplayClient
  sent : List ClientMessage
  error : Option SessionError
deriving DecidableEq

/-- Sends a request as a configuration. One that cannot be completed is destroyed at once. -/
def submit (c : DisplayClient) (r : Request) : Submission :=
  match c.manager with
  | none => ⟨c, [], some .noOutputManager⟩
  | some _ =>
      let n := c.made
      let (messages, e) := c.configure r.heads
      let sent := .createConfiguration r.serial :: messages
      match e with
      | some e => ⟨{ c with made := n + 1 }, sent ++ [.destroy n], some e⟩
      | none =>
          ⟨{ c with made := n + 1, configurations := c.configurations ++ [n] }, sent ++ [.apply],
            none⟩

end DisplayClient

end OutputArranger
