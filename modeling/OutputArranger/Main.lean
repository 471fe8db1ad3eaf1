import OutputArranger.CommandLine.Outcome
import OutputArranger.Terminal

/-!
# The program

Reads the command line and carries it out. There is no display connection and no socket here: what
needs one ends as it does when nobody is there.
-/

namespace OutputArranger

/-- The bytes of a file, if it can be read. -/
def readBytes? (path : String) : IO (Option ByteArray) := do
  try return some (← IO.FS.readBinFile path) catch _ => return none

/-- Carries out what the command line asks for. -/
def invoke (terminal : Terminal) (runtimeDirectory : Option String) :
    Except ReadingEnd Invocation → IO CommandOutcome
  | .error e => return .ofEnd e
  | .ok (.replay path) => return .ofReplay path (← readBytes? path)
  | .ok (.control _) => return .unreachable (terminal.socket runtimeDirectory)
  | .ok (.daemon _ _) => return .failed "Could not connect to the Wayland display"

/-- The program with its arguments. -/
def run (args : List String) : IO UInt32 := do
  let terminal : Terminal := ⟨← IO.getEnv "XDG_VTNR"⟩
  let outcome ← invoke terminal (← IO.getEnv "XDG_RUNTIME_DIR") (CommandLine.read args)
  IO.print outcome.output
  if outcome.complaint ≠ "" then IO.eprintln outcome.complaint
  return outcome.code.toUInt32

end OutputArranger

def main (args : List String) : IO UInt32 := OutputArranger.run args
