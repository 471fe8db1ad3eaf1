import OutputArranger.Files.Tree

/-!
# One daemon at a time

A daemon holds a lock on a file and writes its process number there. The lock is on the file, not
on its name, and ends with the process.
-/

namespace OutputArranger

/-- A lock that is held. -/
structure InstanceLock where
  path : FilePath
  /-- The number of the locked file. -/
  file : Nat
deriving DecidableEq

/-- Files, and the locks that are held on them. -/
structure InstanceLocks where
  files : FileTree
  held : List InstanceLock
deriving DecidableEq

/-- What comes of an attempt to get a lock. -/
inductive LockOutcome where
  | acquired
  /-- Somebody else holds it. -/
  | held
  /-- There is no file that could be locked. -/
  | unavailable
deriving DecidableEq

namespace InstanceLocks

def empty : InstanceLocks := ⟨.empty, []⟩

/-- What a lock file contains. -/
def pidText (pid : Nat) : String := toString pid ++ "\n"

/-- Why a lock file cannot be opened. -/
def openFault (path : String) : String := "Could not open " ++ path

/-- The files once the lock file can be opened: it is made if it is missing and otherwise left as
it is. -/
def opened? (s : InstanceLocks) (p : FilePath) : Option FileTree :=
  match s.files.number? p with
  | some _ => some s.files
  | none => s.files.write? p ""

/-- Tries to get the lock on a file for a process. -/
def acquire (pid : Nat) (p : FilePath) (s : InstanceLocks) : InstanceLocks × LockOutcome :=
  match s.opened? p with
  | none => (s, .unavailable)
  | some files =>
      match files.number? p with
      | none => (s, .unavailable)
      | some n =>
          if s.held.any (·.file = n) then ({ s with files }, .held)
          else
            ({ files := (files.write? p (pidText pid)).getD files
               held := s.held ++ [⟨p, n⟩] }, .acquired)

/-- Gives up the locks on a path. -/
def release (p : FilePath) (s : InstanceLocks) : InstanceLocks :=
  { s with held := s.held.filter (·.path ≠ p) }

end InstanceLocks

end OutputArranger
