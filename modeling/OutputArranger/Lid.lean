import OutputArranger.Files.Content
import OutputArranger.Session.Event
import OutputArranger.Unicode.Lowercase

/-!
# The lid

The state of the lid is polled. It is read from the first of several files that can be read, and a
session hears of it only when it has changed. How often it is polled is left open.
-/

namespace OutputArranger

namespace Lid

/-- What comes after the first colon, or everything if there is none. -/
def value (text : List Char) : List Char :=
  match text.dropWhile (· ≠ ':') with
  | [] => text
  | _ :: rest => rest

/-- Whether a state file says that the lid is closed. Case does not matter. -/
def isClosed (text : String) : Bool :=
  (Unicode.trim (value text.toList)).map Char.toLower == "closed".toList

/-- The state of the lid according to named state files: the first by name that can be read
decides. Without one there is no lid. -/
def ofFiles (files : List (String × FileContent)) : Option Bool :=
  ((files.mergeSort fun a b => decide (a.1 ≤ b.1)).findSome? fun f => f.2.text?).map isClosed

end Lid

/-- What was last seen of the lid. -/
structure LidMonitor where
  last : Option Bool
deriving DecidableEq

namespace LidMonitor

def start : LidMonitor := ⟨none⟩

/-- Takes note of a reading, and the event to send, if it is news. -/
def poll (m : LidMonitor) (reading : Option Bool) : LidMonitor × Option Event :=
  if reading = m.last then (m, none) else (⟨reading⟩, reading.map Event.lidChanged)

/-- What comes of each of several readings. -/
def pollAll (m : LidMonitor) : List (Option Bool) → List (Option Event)
  | [] => []
  | reading :: rest => (m.poll reading).2 :: (m.poll reading).1.pollAll rest

end LidMonitor

end OutputArranger
