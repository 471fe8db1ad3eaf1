import OutputArranger.Pattern.Count
import OutputArranger.Pattern.Expression

/-!
# Groups

A parenthesis opens a group, with a name or flags of its own, or only sets flags for what follows
in the group around it. Groups nest; those that are still open are kept in a list, the innermost
first, and the whole expression counts as the outermost of them.
-/

namespace OutputArranger.Pattern

open Unicode

/-! ## Names -/

/-- Whether a character may stand in the name of a group. -/
def isNameChar (first : Bool) (c : Char) : Bool :=
  c = '_' || isAlphabetic c ||
    (!first && (c = '.' || c = '[' || c = ']' || isNumeric c))

/-- A name up to the angle bracket that closes it; `first` tells whether it is yet to begin. -/
def readNameChars (first : Bool) (read : List Char) :
    List Char → Except Fault (List Char × List Char)
  | [] => refuse .nameEnd (.before [])
  | c :: rest =>
      if c = '>' then .ok (read.reverse, c :: rest)
      else if isNameChar first c then readNameChars false (c :: read) rest
      else refuse .nameInvalid (.first (c :: rest))

/-- The names of groups so far, with their places. -/
abbrev GroupNames := List (List Char × Span)

/-- The name of a group, which is not empty and not taken. -/
def readName (names : GroupNames) (cs : List Char) : Except Fault (GroupNames × List Char) := do
  let (name, rest) ← readNameChars true [] cs
  let span := Span.between cs rest
  if name = [] then refuse .nameEmpty span
  else match names.find? fun (n, _) => n = name with
    | some (_, taken) => .error ⟨.nameRepeated, span, some taken⟩
    | none => .ok ((name, span) :: names, rest.drop 1)

/-! ## Openings -/

/-- What an opening parenthesis begins. -/
inductive Opening where
  | flags (new : Flags)
  | group (inner : Flags)
deriving DecidableEq

/-- A group with flags, or a setting of flags, from after its question mark. -/
def readFlagGroup (flags : Flags) (paren mark rest : List Char) :
    Except Fault (Opening × List Char) :=
  if rest = [] then refuse .groupUnclosed (.first paren)
  else do
    let ((inner, any), rest) ← readFlags [] true none flags rest
    match rest with
    | ')' :: rest =>
        if any then .ok (.flags inner, rest) else refuse .nothingToRepeat (.before mark)
    | rest => .ok (.group inner, rest.drop 1)

/-- What begins with the parenthesis `paren`. Look-around is refused. -/
def readOpening (flags : Flags) (names : GroupNames) (paren : List Char) :
    Except Fault ((Opening × GroupNames) × List Char) :=
  let lookAround (rest : List Char) : Except Fault ((Opening × GroupNames) × List Char) :=
    refuse .lookAround (.between paren rest)
  let named (rest : List Char) : Except Fault ((Opening × GroupNames) × List Char) :=
    (readName names rest).map fun (names, rest) => ((.group flags, names), rest)
  match skip flags (paren.drop 1) with
  | '?' :: '=' :: rest => lookAround rest
  | '?' :: '!' :: rest => lookAround rest
  | '?' :: '<' :: '=' :: rest => lookAround rest
  | '?' :: '<' :: '!' :: rest => lookAround rest
  | '?' :: 'P' :: '<' :: rest => named rest
  | '?' :: '<' :: rest => named rest
  | '?' :: rest =>
      (readFlagGroup flags paren ('?' :: rest) rest).map fun (opening, rest) =>
        ((opening, names), rest)
  | rest => .ok ((.group flags, names), rest)

/-! ## Contents -/

/-- A group that is still open, or the whole expression. -/
structure OpenGroup where
  /-- The place of the parenthesis that opened it. -/
  opening : Span
  /-- The flags to return to when the group closes. -/
  flags : Flags
  /-- The alternatives before the current one. -/
  left : Option Expression
  /-- The parts of the current alternative, in reverse, with the depth of each. Setting flags is a
  part without a depth, which cannot be repeated. -/
  parts : List (Expression × Option Nat)
  /-- The depth of the deepest of the alternatives before the current one. -/
  depth : Nat
deriving DecidableEq

namespace OpenGroup

/-- A group with nothing in it yet. -/
def start (opening : Span) (flags : Flags) : OpenGroup := ⟨opening, flags, none, [], 0⟩

/-- The current alternative as one expression. -/
def concat (g : OpenGroup) : Expression :=
  match g.parts with
  | [] => .empty
  | (last, _) :: before => before.foldl (fun e (p, _) => .seq p e) last

def alternative (g : OpenGroup) : Expression :=
  match g.left with
  | none => g.concat
  | some e => .alt e g.concat

/-- The depth of the alternatives up to and including the current one. -/
def deepest (g : OpenGroup) : Nat :=
  let parts := g.parts.foldl (fun d (_, depth) => max d (depth.getD 0)) 0
  max g.depth (parts + (if 1 < g.parts.length then 1 else 0))

/-- How deep the contents of a group are nested, the group itself not counted. -/
def nested (g : OpenGroup) : Nat :=
  g.deepest + (if g.left.isSome then 1 else 0)

/-- Adds a part to the current alternative. -/
def push (g : OpenGroup) (e : Expression) (depth : Nat) : OpenGroup :=
  { g with parts := (e, some depth) :: g.parts }

/-- Adds a setting of flags. -/
def pushFlags (g : OpenGroup) : OpenGroup := { g with parts := (.empty, none) :: g.parts }

/-- Begins a further alternative. -/
def nextAlternative (g : OpenGroup) : OpenGroup :=
  { g with left := some g.alternative, parts := [], depth := g.deepest }

/-- Whether there is a part in front that can be repeated. -/
def isRepeatable (g : OpenGroup) : Bool :=
  match g.parts with
  | (_, some _) :: _ => true
  | _ => false

/-- Repeats the last part, if it can be repeated. -/
def repeatLast (g : OpenGroup) (count : Count) : OpenGroup :=
  match g.parts with
  | (e, some depth) :: before =>
      { g with parts := (.many e count.least count.most, some (depth + 1)) :: before }
  | _ => g

end OpenGroup

end OutputArranger.Pattern
