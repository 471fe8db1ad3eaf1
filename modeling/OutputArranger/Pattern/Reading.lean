import OutputArranger.Pattern.Bracket
import OutputArranger.Pattern.Count
import OutputArranger.Pattern.Group

/-!
# Reading expressions

The text of an expression is read from left to right in one pass, with a list of the groups that
are still open. A text that is no expression has a fault; so has an expression that is nested too
deep, and one that would take too much room cannot be used either.
-/

namespace OutputArranger.Pattern

open Unicode

/-- Expressions nested deeper than this are refused. -/
def nestingLimit : Nat := 250

/-- Compiled expressions that take more room than this are refused. -/
def roomLimit : Nat := 10485760

/-- One character outside of classes, with its other case if case does not matter. -/
def literal (flags : Flags) (c : Char) : Expression := .one (foldCase flags (.single c))

/-- What a point stands for: any character, or any but those that end a line. Without Unicode it
would match parts of characters and is refused. -/
def anyChar (flags : Flags) (span : Span) : Except Fault CodeSet :=
  flags.resolve
    (if !flags.unicode then refuse .notText span
    else if flags.dotAll then .ok .all
    else if flags.anyLineEnd then .ok (CodeSet.ofCodes [10, 13]).complement
    else .ok (CodeSet.ofCodes [10]).complement)

def startPlace (flags : Flags) : Place :=
  if !flags.multiLine then .textStart
  else if flags.anyLineEnd then .anyLineStart
  else .lineStart

def endPlace (flags : Flags) : Place :=
  if !flags.multiLine then .textEnd
  else if flags.anyLineEnd then .anyLineEnd
  else .lineEnd

/-- What an escape at a place stands for outside of classes. -/
def Atom.toExpression (flags : Flags) (span : Span) : Atom → Except Fault Expression
  | .char c => .ok (literal flags c)
  | .byte _ => (flags.resolve (refuse .notText span)).map .one
  | .set s => .ok (.one s)
  | .place p => .ok (.place p)

/-- A single part that begins here: a character, an escape, a class, a point or an anchor, with its
depth. -/
def readPart (flags : Flags) (cs : List Char) : Except Fault ((Expression × Nat) × List Char) :=
  match cs with
  | [] => .ok ((.empty, 0), [])
  | '[' :: _ => (readBracketed flags cs).map fun ((s, depth), rest) => ((.one s, depth), rest)
  | '\\' :: rest => do
      let (atom, rest) ← readEscape flags cs rest
      .ok ((← atom.toExpression flags (.between cs rest), 0), rest)
  | '.' :: rest => (anyChar flags (.first cs)).map fun s => ((.one s, 0), rest)
  | '^' :: rest => .ok ((.place (startPlace flags), 0), rest)
  | '$' :: rest => .ok ((.place (endPlace flags), 0), rest)
  | c :: rest => .ok ((literal flags c, 0), rest)

/-- The repetition that begins here, if any. -/
def readRepetition? (flags : Flags) : List Char → Option (Except Fault (Count × List Char))
  | '?' :: rest => some (.ok (⟨0, some 1⟩, dropLazy rest))
  | '*' :: rest => some (.ok (⟨0, none⟩, dropLazy rest))
  | '+' :: rest => some (.ok (⟨1, none⟩, dropLazy rest))
  | '\x7b' :: rest => some (readCount flags ('\x7b' :: rest))
  | _ => none

/-- Reads the whole expression and how deep it is nested. `outer` are the groups around the current
one, and `names` the names of groups so far. -/
def readAll : Nat → Flags → OpenGroup → List OpenGroup → GroupNames → List Char →
    Except Fault (Expression × Nat)
  | 0, _, current, _, _, _ => refuse .groupUnclosed current.opening
  | fuel + 1, flags, current, outer, names, cs =>
      match skip flags cs with
      | [] =>
          if outer = [] then .ok (current.alternative, current.nested)
          else refuse .groupUnclosed current.opening
      | '(' :: rest => do
          let paren := '(' :: rest
          let ((opening, names), rest) ← readOpening flags names paren
          match opening with
          | .flags new => readAll fuel new current.pushFlags outer names rest
          | .group inner =>
              readAll fuel inner (.start (.first paren) flags) (current :: outer) names rest
      | ')' :: rest =>
          match outer with
          | [] => refuse .groupUnopened (.first (')' :: rest))
          | around :: outer =>
              readAll fuel current.flags (around.push current.alternative (current.nested + 1))
                outer
                names rest
      | '|' :: rest => readAll fuel flags current.nextAlternative outer names rest
      | cs =>
          match readRepetition? flags cs with
          | some repetition =>
              if current.isRepeatable then do
                let (count, rest) ← repetition
                readAll fuel flags (current.repeatLast count) outer names rest
              else refuse .nothingToRepeat (.before cs)
          | none => do
              let ((e, depth), rest) ← readPart flags cs
              readAll fuel flags (current.push e depth) outer names rest

/-- Reads an expression, for how it is written only or also for what it stands for. -/
def readWhole (resolves : Bool) (cs : List Char) : Except Fault (Expression × Nat) :=
  let flags := Flags.initial resolves
  readAll (cs.length + 1) flags (.start (.before cs) flags) [] [] cs

end OutputArranger.Pattern

namespace OutputArranger

/-- Why a text cannot be used as an expression. -/
inductive ExpressionFault where
  | malformed (fault : Pattern.Fault)
  /-- The expression would take more room than the limit. -/
  | tooLarge (limit : Nat)
deriving DecidableEq

/-- What is wrong with the text of an expression. -/
def ExpressionFault.message (f : ExpressionFault) (cs : List Char) : String :=
  match f with
  | .malformed fault => fault.message cs
  | .tooLarge limit => "Compiled regex exceeds size limit of " ++ toString limit ++ " bytes."

namespace Expression

/-- The expression that a text denotes. A fault in how it is written goes before one in what it
stands for. -/
def read (cs : List Char) : Except ExpressionFault Expression := do
  let (_, depth) ← (Pattern.readWhole false cs).mapError .malformed
  if Pattern.nestingLimit < depth then
    .error (.malformed ⟨.nesting Pattern.nestingLimit, .between cs [], none⟩)
  let (e, _) ← (Pattern.readWhole true cs).mapError .malformed
  if Pattern.roomLimit < e.room then .error (.tooLarge Pattern.roomLimit) else .ok e

/-- The expression that a text denotes, if it denotes one. -/
def parse (cs : List Char) : Option Expression := (read cs).toOption

end Expression

end OutputArranger
