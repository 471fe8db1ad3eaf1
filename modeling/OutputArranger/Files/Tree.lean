import OutputArranger.Files.Content

/-!
# A tree of files

Directories, files and symbolic links below one root. A path is the list of names from the root
down. A file has a number of its own, so that two names of one file are known as such, and a file
that was replaced is known to be another one. Links lead to paths from the root.
-/

namespace OutputArranger

/-- The names on the way from the root. -/
abbrev FilePath := List String

inductive FileEntry where
  | directory
  | file (number : Nat)
  | link (target : FilePath)
deriving DecidableEq

structure FileTree where
  entries : List (FilePath × FileEntry)
  /-- The contents of every file that was ever made, by its number. -/
  contents : List String
deriving DecidableEq

namespace FileTree

def empty : FileTree := ⟨[], []⟩

/-- The path of a text in which names are separated by slashes. -/
def path (text : String) : FilePath := ((text.splitOn "/").filter fun n => n ≠ "" ∧ n ≠ ".")

/-- The text of a path below a root. -/
def shown (root : String) (p : FilePath) : String := "/".intercalate (root :: p)

/-- What is at a path, without following a link there. -/
def entry? (t : FileTree) (p : FilePath) : Option FileEntry :=
  if p = [] then some .directory else (t.entries.find? fun e => e.1 = p).map (·.2)

/-- How many names and links are followed before a path counts as a loop. -/
def followLimit : Nat := 400

/-- The path without links that leads from `done` through the names in `rest`. -/
def follow (t : FileTree) : Nat → FilePath → FilePath → Option FilePath
  | 0, _, _ => none
  | _ + 1, done, [] => some done
  | fuel + 1, done, name :: rest =>
      if name = ".." then follow t fuel done.dropLast rest
      else match t.entry? (done ++ [name]) with
        | none => none
        | some .directory => follow t fuel (done ++ [name]) rest
        | some (.file _) => if rest = [] then some (done ++ [name]) else none
        | some (.link target) => follow t fuel [] (target ++ rest)

/-- The path without links of what is at a path, if anything is. -/
def resolve? (t : FileTree) (p : FilePath) : Option FilePath := t.follow followLimit [] p

/-- What is at a path once links are followed. -/
def target? (t : FileTree) (p : FilePath) : Option FileEntry := (t.resolve? p).bind t.entry?

def isDirectory (t : FileTree) (p : FilePath) : Bool := t.target? p = some .directory

/-- The number of the file at a path. -/
def number? (t : FileTree) (p : FilePath) : Option Nat :=
  match t.target? p with
  | some (.file n) => some n
  | _ => none

/-- What a reader finds at a path. -/
def content (t : FileTree) (p : FilePath) : FileContent :=
  match t.target? p with
  | some (.file n) => match t.contents[n]? with
    | some text => .text text
    | none => .missing
  | some _ => .unreadable
  | none => .missing

/-- The directory that holds a path, and the name there. -/
def place? (t : FileTree) (p : FilePath) : Option (FilePath × String) := do
  let name ← p.getLast?
  let directory ← t.resolve? p.dropLast
  if t.entry? directory = some .directory then some (directory, name) else none

/-- Puts an entry at a path, in place of what was there. -/
def put (p : FilePath) (e : FileEntry) (t : FileTree) : FileTree :=
  { t with entries := (p, e) :: t.entries.filter fun x => x.1 ≠ p }

/-- Makes the directory `p ++ names` step by step. -/
def makeFrom (t : FileTree) (p : FilePath) : List String → Option FileTree
  | [] => some t
  | name :: rest =>
      match t.entry? (p ++ [name]) with
      | none => (t.put (p ++ [name]) .directory).makeFrom (p ++ [name]) rest
      | some _ => do
          let q ← t.resolve? (p ++ [name])
          if t.entry? q = some .directory then t.makeFrom q rest else none

/-- The tree with a directory and all that lead to it, unless something else is in the way. -/
def makeDirectory? (p : FilePath) (t : FileTree) : Option FileTree := t.makeFrom [] p

/-- Makes a directory if that is possible. -/
def makeDirectory (p : FilePath) (t : FileTree) : FileTree := (t.makeDirectory? p).getD t

/-- Adds a file and puts it at a path. -/
def putNew (p : FilePath) (text : String) (t : FileTree) : FileTree :=
  { t.put p (.file t.contents.length) with contents := t.contents ++ [text] }

/-- Moves a new file to a path. The name then means another file than before. -/
def replace (p : FilePath) (text : String) (t : FileTree) : FileTree :=
  let t := t.makeDirectory p.dropLast
  match t.place? p with
  | none => t
  | some (directory, name) =>
      if t.entry? (directory ++ [name]) = some .directory then t
      else t.putNew (directory ++ [name]) text

/-- Writes to the file at a path, which is made if there is none; `none` when no file can be
opened there. -/
def write? (p : FilePath) (text : String) (t : FileTree) : Option FileTree :=
  match t.number? p with
  | some n => some { t with contents := t.contents.set n text }
  | none => do
      let (directory, name) ← t.place? p
      if (t.entry? (directory ++ [name])).isSome then none
      else some (t.putNew (directory ++ [name]) text)

/-- Removes a name. -/
def remove (p : FilePath) (t : FileTree) : FileTree :=
  match t.place? p with
  | none => t
  | some (directory, name) =>
      { t with entries := t.entries.filter fun x => x.1 ≠ directory ++ [name] }

/-- Puts an entry at a path where nothing is yet. -/
def add (p : FilePath) (e : FileEntry) (t : FileTree) : FileTree :=
  match t.place? p with
  | none => t
  | some (directory, name) =>
      if (t.entry? (directory ++ [name])).isSome then t else t.put (directory ++ [name]) e

/-- Makes a symbolic link. -/
def link (p target : FilePath) (t : FileTree) : FileTree := t.add p (.link target)

/-- Gives a file another name. -/
def addName (p target : FilePath) (t : FileTree) : FileTree :=
  match t.number? target with
  | none => t
  | some n => t.add p (.file n)

end FileTree

end OutputArranger
