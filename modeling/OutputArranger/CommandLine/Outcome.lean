import OutputArranger.CommandLine.Help
import OutputArranger.CommandLine.Reading
import OutputArranger.Control.Reception
import OutputArranger.Files.Content
import OutputArranger.Session.Recording

/-!
# What a command leaves behind

A command ends with an exit code, its output and its complaints. Data is printed for people, with
members sorted.
-/

namespace OutputArranger

/-- The end of a command. -/
structure CommandOutcome where
  code : Nat
  output : String
  complaint : String
deriving DecidableEq

namespace CommandOutcome

/-- Data as it is printed. -/
def shown (j : Json) : String := j.canonical.pretty ++ "\n"

def done (output : String) : CommandOutcome := ⟨0, output, ""⟩

def failed (complaint : String) : CommandOutcome := ⟨1, "", complaint⟩

/-- The end of a reading that found nothing to do. -/
def ofEnd : ReadingEnd → CommandOutcome
  | .usage => ⟨2, "", "Usage: " ++ programName ++ " [OPTIONS] [COMMAND]"⟩
  | .help words => done (CommandLine.help words)
  | .version => done CommandLine.versionText

/-- Nobody answers on the control socket. -/
def unreachable (socket : String) : CommandOutcome :=
  failed ("could not connect to " ++ socket ++ ": " ++ systemFault ++ "; is way-layout running?")

/-- What is shown of a response. An error that is no message is shown as data. -/
def ofResponse (r : ControlResponse) : CommandOutcome :=
  match r, r.message? with
  | .success data, _ => done (shown data)
  | .error _, some message => failed message
  | .error e, none => ⟨1, shown e, ""⟩

/-- What is shown of the text that the daemon answered. -/
def ofAnswer (text : String) : CommandOutcome :=
  match ControlResponse.parse text with
  | some r => ofResponse r
  | none => failed ReceptionFault.malformed.message

/-- What is shown of a replay. -/
def ofReplay (path : String) : Option ByteArray → CommandOutcome
  | none => failed ("Could not replay " ++ path ++ ": " ++ (ReplayFault.missing path).message)
  | some bytes =>
      match Replay.ofBytes bytes with
      | .ok r => done (shown r.session.snapshot.toJson)
      | .error e => failed ("Could not replay " ++ path ++ ": " ++ e.message)

end CommandOutcome

end OutputArranger
