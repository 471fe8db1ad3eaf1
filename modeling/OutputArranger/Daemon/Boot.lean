import OutputArranger.Daemon.Basic

/-!
# Starting the daemon

The daemon takes its lock, loads its configuration, opens the recording, connects to the display
and binds the control socket, in this order. The first of these that fails ends it.
-/

namespace OutputArranger

/-- What is at the place of the control socket. -/
inductive SocketPlace where
  | free
  /-- A file that can be removed. -/
  | stale
  /-- Something that cannot be removed. -/
  | blocked
deriving DecidableEq

/-- Whether something is left there once the daemon has ended. A socket that was bound is gone. -/
def SocketPlace.isLeft (place : SocketPlace) (bound : Bool) : Bool := !bound && place != .free

/-- What the daemon finds when it starts. -/
structure DaemonSetup where
  /-- Whether another daemon holds the lock. -/
  locked : Bool
  pidFile : String
  configPath : String
  config : FileContent
  record : Option RecordTarget
  recordPath : String
  /-- What the compositor announces, if there is one. -/
  display : Except ConnectFault (List CompositorMessage)
  socket : SocketPlace
  socketPath : String
  hasLid : Bool
  /-- A filter for the log that is given from outside. -/
  filter : Option LogFilter

/-- How far the daemon has come. -/
structure DaemonBoot where
  /-- The daemon, unless it has ended. -/
  daemon : Option Daemon
  sent : List ClientMessage
  shown : List Notice
  /-- Whether the file of the recording was made. -/
  recordMade : Bool
  socketBound : Bool

namespace DaemonSetup

def alreadyRunning : String := "way-layout is already running on this terminal"

/-- The configuration with which the daemon starts. -/
def startConfig (s : DaemonSetup) : Config := Config.load s.configPath s.config

/-- What the log shows until the configuration is known. -/
def firstFilter (s : DaemonSetup) : LogFilter := s.filter.getD (.ofThreshold .info)

/-- What the log shows from then on. -/
def filterAfter (s : DaemonSetup) : LogFilter :=
  s.filter.getD (.ofThreshold s.startConfig.threshold)

/-- What is shown before the recording is opened. -/
def earlyShown (s : DaemonSetup) : List Notice :=
  s.firstFilter.shown (.info ("pid file " ++ s.pidFile) ::
    Config.loadNotices s.configPath s.config) ++
  (if s.filter.isSome then []
    else s.filterAfter.shown [Daemon.thresholdNotice s.startConfig.threshold])

/-- What is said once the control socket is bound. -/
def boundNotices (s : DaemonSetup) : List Notice :=
  (if s.socket = .stale then [.debug ("removing stale socket " ++ s.socketPath)] else []) ++
    [.info ("listening on " ++ s.socketPath), .info "watching"] ++
    (if s.hasLid then [] else [.info "No lid found"])

/-- The end of a start that fails. -/
def failed (s : DaemonSetup) (shown : List Notice) (recordMade : Bool) (message : String) :
    DaemonBoot :=
  ⟨none, [], shown ++ s.filterAfter.shown [.error message], recordMade, false⟩

/-- The last part of the start, once there is a connection. -/
def bind (s : DaemonSetup) (shown : List Notice) (c : Connected) : DaemonBoot :=
  let recordMade := s.record.isSome
  let shown := shown ++ s.filterAfter.shown c.log
  if s.socket = .blocked then s.failed shown recordMade systemFault
  else
    let file : ConfigFile := ⟨s.configPath, true, s.config.text?⟩
    match Session.startRecorded s.startConfig file s.record with
    | none => s.failed shown false (RecordTarget.fault s.recordPath ++ ": " ++ systemFault)
    | some (session, log) =>
        let daemon : Daemon := ⟨session, c.connection, s.filterAfter, s.filter.isSome⟩
        let first := daemon.turn
        ⟨if first.ended then none else some first.daemon, c.sent ++ first.sent,
          shown ++ daemon.shown (s.boundNotices ++ log) ++ first.shown, recordMade, true⟩

/-- Starts the daemon. -/
def boot (s : DaemonSetup) : DaemonBoot :=
  if s.locked then ⟨none, [], s.firstFilter.shown [.error alreadyRunning], false, false⟩
  else if s.record = some .blocked then
    s.failed s.earlyShown false (RecordTarget.fault s.recordPath ++ ": " ++ systemFault)
  else
    match s.display.bind DisplayConnection.connect with
    | .error f => s.failed s.earlyShown s.record.isSome f.message
    | .ok c => s.bind s.earlyShown c

end DaemonSetup

end OutputArranger
