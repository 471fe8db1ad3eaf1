import OutputArranger.Session.Pass
import OutputArranger.Session.Ron

/-!
# Recordings

A recording is a text: the configuration that a session began with, then its events, each on a
line of its own. Replaying one hands the events to a new session, with a pass of the layout after
each and a compositor that takes every request.
-/

namespace OutputArranger

namespace Recording

def configLine (c : Config) : String := String.ofList c.toRon.text

def eventLine (e : Event) : String := String.ofList e.toRon.text

/-- The lines of a recording. -/
def lines (r : Recording) : List String := configLine r.config :: r.events.toList.map eventLine

/-- The text of a recording. -/
def text (r : Recording) : String := String.join (r.lines.map (· ++ "\n"))

/-- The configuration of a line. -/
def readConfig (line : String) : Option Config := do
  let (d, v) ← Ron.parse line
  Config.ofRon? d v

/-- The event of a line. -/
def readEvent (line : String) : Option Event := do
  let (d, v) ← Ron.parse line
  Event.ofRon? d v

end Recording

/-- What is at the place where a recording shall be written. -/
inductive RecordTarget where
  | writable
  /-- A file that can be created but takes nothing. -/
  | full
  /-- A place where no file can be created. -/
  | blocked
deriving DecidableEq

/-- Why no recording can be made. -/
def RecordTarget.fault (path : String) : String := "Could not create " ++ path

/-- That a recording ends because its file takes nothing more. -/
def recordingStopped : Notice := .warning ("Recording stopped: " ++ systemFault)

namespace Session

/-- A session that is recorded if there is a place for it, and what is said about that. -/
def startRecorded (c : Config) (file : ConfigFile) :
    Option RecordTarget → Option (Session × List Notice)
  | none => some (start c file false, [])
  | some .writable => some (start c file true, [])
  | some .full => some (start c file false, [recordingStopped])
  | some .blocked => none

end Session

/-- Why a recording cannot be replayed. -/
inductive ReplayFault where
  | missing (path : String)
  /-- A line that is not text. -/
  | unreadable
  | empty
  | config
  /-- A line that is no event, counted from one. -/
  | event (line : Nat)
  | session (e : SessionError)
deriving DecidableEq

def ReplayFault.message : ReplayFault → String
  | .missing path => "Could not open " ++ path
  | .unreadable => "stream did not contain valid UTF-8"
  | .empty => "Empty recording"
  | .config => "Malformed config line"
  | .event line => "Malformed event on line " ++ toString line
  | .session e => e.message

/-- A replay in progress. -/
structure Replay where
  session : Session
  log : List Notice
  /-- How many requests there were. -/
  applied : Nat
deriving DecidableEq

namespace Replay

/-- The beginning of a replay. Nothing is written and nothing is recorded. -/
def start (c : Config) : Replay := ⟨Session.start c ⟨"", false, none⟩ false, [], 0⟩

/-- What is said instead of sending a request. -/
def wouldApply : Notice := .info "would apply"

/-- Hands an event to the session, and lets a pass of the layout follow. -/
def step (r : Replay) (e : Event) : Except SessionError Replay :=
  let handled := r.session.handle e
  match handled.error with
  | some e => .error e
  | none =>
      let pass := handled.session.layout .always
      .ok
        { session := pass.session
          log := r.log ++ handled.log ++ pass.log ++
            (if pass.sent.isSome then [wouldApply] else [])
          applied := r.applied + (if pass.sent.isSome then 1 else 0) }

/-- The replay of a configuration and events. -/
def ofEvents (c : Config) (events : List Event) : Except SessionError Replay :=
  events.foldlM step (start c)

/-- Replays the line with this number. -/
def line (r : Replay) (number : Nat) (text : Option String) : Except ReplayFault Replay :=
  match text with
  | none => .error .unreadable
  | some t =>
      match Recording.readEvent t with
      | none => .error (.event number)
      | some e => (r.step e).mapError .session

/-- Replays lines, the first of which has this number. -/
def linesFrom (r : Replay) (number : Nat) : List (Option String) → Except ReplayFault Replay
  | [] => .ok r
  | text :: rest =>
      match r.line number text with
      | .error e => .error e
      | .ok next => next.linesFrom (number + 1) rest

/-- The replay of the lines of a recording, of which each is a text or is not. -/
def ofLines : List (Option String) → Except ReplayFault Replay
  | [] => .error .empty
  | none :: _ => .error .unreadable
  | some first :: rest =>
      match Recording.readConfig first with
      | none => .error .config
      | some c => (start c).linesFrom 2 rest

/-- A line without the carriage return at its end; the line is read backwards. -/
def endLine : List UInt8 → List UInt8
  | 13 :: rest => rest.reverse
  | line => line.reverse

/-- Cuts bytes into lines, `line` being what was read of the current one, backwards. A line ends at
a line feed, and the last one at the end if it is not empty. -/
def cutLines (line : List UInt8) : List UInt8 → List (List UInt8)
  | [] => if line = [] then [] else [line.reverse]
  | b :: rest => if b = 10 then endLine line :: cutLines [] rest else cutLines (b :: line) rest

/-- The replay of the bytes of a recording. -/
def ofBytes (bytes : ByteArray) : Except ReplayFault Replay :=
  ofLines ((cutLines [] bytes.toList).map fun line => String.fromUTF8? ⟨line.toArray⟩)

end Replay

end OutputArranger
