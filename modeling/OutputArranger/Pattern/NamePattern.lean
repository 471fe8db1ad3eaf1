import OutputArranger.Pattern.Reading
import OutputArranger.Unicode.Lowercase

/-!
# Patterns for names and descriptions

A pattern selects outputs by their name or description. It is the exact name, a part of the
description in any case, or, behind an exclamation mark, a regular expression tried against both.
-/

namespace OutputArranger

/-- Why a pattern can never select anything. -/
inductive PatternIssue where
  | empty
  | invalidExpression (expression : String) (fault : ExpressionFault)
deriving DecidableEq

def PatternIssue.message : PatternIssue → String
  | .empty => "empty name or description pattern"
  | .invalidExpression e fault => "invalid regex '" ++ e ++ "': " ++ fault.message e.toList

namespace NamePattern

/-- The regular expression behind an exclamation mark. -/
def expression? (pattern : String) : Option (List Char) :=
  match pattern.toList with
  | '!' :: rest => some rest
  | _ => none

/-- Whether `part` occurs in `text`. -/
def occursIn (part : List Char) : List Char → Bool
  | [] => part.isEmpty
  | c :: rest => part.isPrefixOf (c :: rest) || occursIn part rest

/-- Whether a pattern selects an output of this name and description. The empty pattern and a
malformed expression select none. -/
def selects (pattern : String) (name description : Option String) : Bool :=
  if pattern = "" then false
  else match expression? pattern with
    | some cs =>
        match Expression.parse cs with
        | none => false
        | some e =>
            name.any (fun n => e.matchesIn n.toList) ||
              description.any (fun d => e.matchesIn d.toList)
    | none =>
        if name = some pattern then true
        else
          let part := Unicode.lowercase pattern.toList
          description.any fun d => occursIn part (Unicode.lowercase d.toList)

/-- What is wrong with a pattern, if anything. -/
def issue? (pattern : String) : Option PatternIssue :=
  if pattern = "" then some .empty
  else match expression? pattern with
    | none => none
    | some cs =>
        match Expression.read cs with
        | .ok _ => none
        | .error fault => some (.invalidExpression (String.ofList cs) fault)

/-- Whether a pattern is free of issues. -/
def isValid (pattern : String) : Bool := (issue? pattern).isNone

end NamePattern

end OutputArranger
