import OutputArranger.Config.File
import OutputArranger.Files.Tree

/-!
# Watching the configuration file

The directory of the file is watched, and so is the directory of the file that it leads to. A
change counts when it may concern the file: by its path, by where it leads, by the file itself, or
by its name. When a change is noticed, and how often, is left open.
-/

namespace OutputArranger

/-- What is known of a configuration file since watching began. -/
structure ConfigWatch where
  path : FilePath
  /-- The path without links, if the file was there. -/
  real : Option FilePath
  /-- The number of the file. -/
  number : Option Nat
  /-- The directories that are watched. -/
  directories : List FilePath
deriving DecidableEq

/-- What a change of the configuration file leads to. -/
inductive Reload where
  /-- The file is gone, and the configuration stays. -/
  | removed
  | failed
  | loaded (config : Config)
deriving DecidableEq

namespace ConfigWatch

/-- Watches a directory, which is made if it is missing. -/
def watch (state : FileTree × List FilePath) (directory : FilePath) : FileTree × List FilePath :=
  match state.1.makeDirectory? directory with
  | none => state
  | some t => (t, state.2 ++ (t.resolve? directory).toList)

/-- Begins to watch a file. -/
def start (t : FileTree) (path : FilePath) : FileTree × ConfigWatch :=
  let real := t.resolve? path
  let parents := path.dropLast :: (real.map List.dropLast).toList
  let (after, directories) := parents.foldl watch (t, [])
  (after, ⟨path, real, t.number? path, directories⟩)

/-- Whether a change at a path may concern the file. -/
def isRelevant (w : ConfigWatch) (t : FileTree) (p : FilePath) : Bool :=
  p.getLast? = w.path.getLast? ||
    w.real.any (fun r => p = r || t.resolve? p = some r) ||
    w.number.any (fun n => t.number? p = some n)

/-- Whether a change at a path is seen at all. -/
def sees (w : ConfigWatch) (t : FileTree) (p : FilePath) : Bool :=
  (t.resolve? p.dropLast).any fun d => d ∈ w.directories

/-- Reads the file anew. -/
def reload (w : ConfigWatch) (t : FileTree) : Reload :=
  match t.content w.path with
  | .missing => .removed
  | content =>
      match Config.read "" content with
      | .ok c => .loaded c
      | .error _ => .failed

/-- What comes of changes at these paths: the file is read anew if one of them may concern it. -/
def notice (w : ConfigWatch) (t : FileTree) (changed : List FilePath) : Option Reload :=
  if changed.any fun p => w.sees t p && w.isRelevant t p then some (w.reload t) else none

end ConfigWatch

end OutputArranger
