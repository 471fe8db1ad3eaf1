/-!
# Places of a terminal

One daemon runs on each virtual terminal. The number of the terminal is part of the names of its
lock file and of its control socket, so that daemons of several terminals do not meet.
-/

namespace OutputArranger

/-- A virtual terminal, by its number if one is known. -/
structure Terminal where
  number : Option String
deriving DecidableEq

namespace Terminal

/-- The name of a file of this terminal. An empty number is as good as none. -/
def fileName (t : Terminal) (extension : String) : String :=
  match t.number with
  | none | some "" => "way-layout." ++ extension
  | some n => "way-layout." ++ n ++ "." ++ extension

/-- The file that holds the process number of the daemon. -/
def pidFile (t : Terminal) : String := "/tmp/" ++ t.fileName "pid"

/-- A name in a directory. -/
def within (directory name : String) : String :=
  if directory.endsWith "/" then directory ++ name else directory ++ "/" ++ name

/-- The control socket: in the runtime directory of the user if there is one. -/
def socket (runtimeDirectory : Option String) (t : Terminal) : String :=
  let directory := match runtimeDirectory with
    | none | some "" => "/tmp"
    | some d => d
  within directory (t.fileName "sock")

end Terminal

end OutputArranger
