import OutputArranger.Toml.Reader

/-!
# TOML documents

The statements of a document build one table. No key is given a value twice and no table is
defined twice; a header may still define a table that so far only occurred as a part of the
headers of others.
-/

namespace OutputArranger.Toml

/-- How a table of the document came to be. -/
inductive Origin where
  /-- Defined by its own header. -/
  | header
  /-- Named on the way in the header of another table. -/
  | implied
  /-- Named on the way in a dotted key. -/
  | dotted
deriving DecidableEq

/-- A table under construction. -/
inductive Node where
  | value (v : Value)
  | table (origin : Origin) (entries : List (String × Node))
  /-- The tables of a list, the last one first. -/
  | tables (items : List (List (String × Node)))

mutual

def Node.toValue : Node → Value
  | .value v => v
  | .table _ entries => .table (Node.toEntries entries)
  | .tables items => .array (Node.toTables [] items)

def Node.toEntries : List (String × Node) → List (String × Value)
  | [] => []
  | (key, n) :: rest => (key, n.toValue) :: Node.toEntries rest

/-- The tables of a list in order, given those that come after them. -/
def Node.toTables (after : List Value) : List (List (String × Node)) → List Value
  | [] => after
  | entries :: before => Node.toTables (.table (Node.toEntries entries) :: after) before

end

abbrev Entries := List (String × Node)

/-- Replaces the node of a key, which is there. -/
def replaceNode (key : String) (n : Node) (entries : Entries) : Entries :=
  entries.map fun e => if e.1 = key then (key, n) else e

/-- Goes down a path, making tables where there are none, and changes the entries at its end.
`viaDots` tells a path of dotted keys from one of a header; the change is told whether the table
at the end stems from dotted keys. -/
def descend (viaDots : Bool) (change : Bool → Entries → Option Entries) :
    List String → Bool → Entries → Option Entries
  | [], isDotted, entries => change isDotted entries
  | key :: path, _, entries =>
      match entries.find? (·.1 = key) with
      | none => do
          let inner ← descend viaDots change path viaDots []
          some (entries ++ [(key, .table (if viaDots then .dotted else .implied) inner)])
      | some (_, .value _) => none
      | some (_, .table origin inner) =>
          if viaDots ∧ origin = .header then none
          else do
            let inner ← descend viaDots change path (decide (origin = .dotted)) inner
            some (replaceNode key (.table origin inner) entries)
      | some (_, .tables []) => none
      | some (_, .tables (last :: before)) =>
          do
            let last ← descend viaDots change path false last
            some (replaceNode key (.tables (last :: before)) entries)

/-- Gives a key a value. Dotted keys may not enter tables that were not made by dotted keys. -/
def assign (path : List String) (v : Value) (entries : Entries) : Option Entries :=
  match path.getLast? with
  | none => none
  | some key =>
      descend true (fun isDotted es =>
        if path.length ≠ 1 ∧ !isDotted then none
        else if es.any (·.1 = key) then none
        else some (es ++ [(key, .value v)])) path.dropLast false entries

/-- Opens the table of a header. -/
def openTable (path : List String) (entries : Entries) : Option Entries :=
  match path.getLast? with
  | none => none
  | some key =>
      descend false (fun _ es =>
        match es.find? (·.1 = key) with
        | none => some (es ++ [(key, .table .header [])])
        | some (_, .table .implied inner) => some (replaceNode key (.table .header inner) es)
        | some _ => none) path.dropLast false entries

/-- Adds one more table to the list of a header. -/
def openListed (path : List String) (entries : Entries) : Option Entries :=
  match path.getLast? with
  | none => none
  | some key =>
      descend false (fun _ es =>
        match es.find? (·.1 = key) with
        | none => some (es ++ [(key, .tables [[]])])
        | some (_, .tables items) => some (replaceNode key (.tables ([] :: items)) es)
        | some _ => none) path.dropLast false entries

/-- Changes the table that was opened last. -/
def inside (path : List String) (f : Entries → Option Entries) (entries : Entries) :
    Option Entries :=
  descend false (fun _ es => f es) path false entries

/-- Builds the document. `current` is the path of the table that was opened last. -/
def build (current : List String) : List Statement → Entries → Option Entries
  | [], entries => some entries
  | .entry path v :: rest, entries => do
      build current rest (← inside current (assign path v) entries)
  | .table path :: rest, entries => do build path rest (← openTable path entries)
  | .listedTable path :: rest, entries => do build path rest (← openListed path entries)

/-- The entries of a TOML document. -/
def parse (text : String) : Option (List (String × Value)) := do
  some (Node.toEntries (← build [] (← statements text.toList) []))

end OutputArranger.Toml
