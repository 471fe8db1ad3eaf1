import OutputArranger.Control.Reception
import OutputArranger.Log.Filter
import OutputArranger.Session.Recording
import OutputArranger.Session.Rest
import OutputArranger.Session.Turn

/-!
# The daemon

The daemon keeps a session going over a display connection. Whatever happens is handled first and
followed by a turn. An error that the session cannot get over ends the daemon.
-/

namespace OutputArranger

structure Daemon where
  session : Session
  connection : DisplayConnection
  filter : LogFilter
  /-- Whether the filter was given from outside; the configuration then does not change it. -/
  filterFixed : Bool
deriving DecidableEq

/-- What came of something that the daemon did. -/
structure DaemonStep where
  daemon : Daemon
  sent : List ClientMessage
  replies : List (Ticket × Reply)
  /-- The entries that the log shows. -/
  shown : List Notice
  /-- Whether the daemon has ended. -/
  ended : Bool
deriving DecidableEq

namespace Daemon

/-- What is said once the log shows entries from another severity on. -/
def thresholdNotice (t : LogThreshold) : Notice := .debug ("Log threshold is now " ++ t.name)

/-- The entries of a log that are shown. -/
def shown (d : Daemon) (log : List Notice) : List Notice := d.filter.shown log

/-- Lets the log show what the configuration asks for. -/
def followThreshold (d : Daemon) : Daemon :=
  if d.filterFixed then d else { d with filter := .ofThreshold d.session.config.threshold }

/-- What is said when the configuration of the log has changed since `before`. -/
def thresholdNotices (d : Daemon) (before : LogThreshold) : List Notice :=
  if d.filterFixed || d.session.config.threshold = before then []
  else [thresholdNotice d.session.config.threshold]

/-- The daemon has nothing to do. -/
def idle (d : Daemon) : DaemonStep := ⟨d, [], [], [], false⟩

/-- Two steps, of which the second is taken unless the first has ended the daemon. -/
def andThen (first : DaemonStep) (next : Daemon → DaemonStep) : DaemonStep :=
  if first.ended then first
  else
    let second := next first.daemon
    { second with
      sent := first.sent ++ second.sent
      replies := first.replies ++ second.replies
      shown := first.shown ++ second.shown }

/-- A turn. Events of the display are traced one by one. -/
def turn (d : Daemon) : DaemonStep :=
  let t := d.session.turn d.connection
  let log := (t.events.map fun _ => Notice.trace "wayland") ++ t.log
  let after := { d with session := t.session, connection := t.connection }
  match t.fault with
  | none => ⟨after, t.sent, t.replies, d.shown log, false⟩
  | some fault => ⟨after, t.sent, t.replies, d.shown (log ++ [.error fault.message]), true⟩

/-- Handles an event that does not come from the display. -/
def handle (d : Daemon) (e : Event) : DaemonStep :=
  let step := d.session.handle e
  let after := { d with session := step.session }
  match step.error with
  | some e => ⟨after, [], step.replies, d.shown (step.log ++ [.error e.message]), true⟩
  | none =>
      let followed := after.followThreshold
      ⟨followed, [], step.replies,
        d.shown step.log ++
          followed.shown (after.thresholdNotices d.session.config.threshold), false⟩

/-- Handles an event and takes a turn. -/
def react (d : Daemon) (e : Event) : DaemonStep := andThen (d.handle e) turn

/-- Serves a client: the answer that it gets at once, if its request cannot be read. -/
def serve (d : Daemon) (client : Ticket) (bytes : ByteArray) :
    DaemonStep × Option ControlResponse :=
  match Event.received client bytes with
  | .ok e => (d.react e, none)
  | .error f => ({ d.idle with shown := d.shown [f.notice] }, some f.response)

/-- What is said about a configuration file that cannot be used. -/
def reloadFault (path : String) : Notice :=
  .warning ("Failed to reload " ++ path ++ ": " ++ loadFault)

/-- Reads the configuration file anew. -/
def reload (d : Daemon) (content : FileContent) : DaemonStep :=
  let path := d.session.configFile.path
  let said := { d.idle with
    shown := d.shown (.trace ("change detected: " ++ path) :: Config.readNotices content) }
  match Config.read path content with
  | .ok c => andThen said fun d => d.react (.configChanged c)
  | .error _ => { said with shown := said.shown ++ d.shown [reloadFault path] }

/-- A signal that ends the daemon. -/
def stop (d : Daemon) (signal : String) : DaemonStep :=
  { d.idle with shown := d.shown [.info ("SIG" ++ signal ++ ", exiting")], ended := true }

end Daemon

end OutputArranger
