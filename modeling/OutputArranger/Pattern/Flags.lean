import OutputArranger.Pattern.Fault
import OutputArranger.Unicode.CodeSet

/-!
# Flags of an expression

Flags change what the parts of an expression stand for, and whether blanks count. An expression is
read twice: first only for how it is written, then for what it stands for, so that a fault of the
first kind goes before one of the second wherever they stand.
-/

namespace OutputArranger.Pattern

open Unicode

/-- What is in force at a point of an expression. -/
structure Flags where
  ignoreCase : Bool
  multiLine : Bool
  dotAll : Bool
  unicode : Bool
  anyLineEnd : Bool
  verbose : Bool
  /-- Whether it is found out what the parts stand for. -/
  resolves : Bool
deriving DecidableEq

def Flags.initial (resolves : Bool) : Flags := ⟨false, false, false, true, false, false, resolves⟩

/-- Looks something up if it is time for that. -/
def Flags.resolve (flags : Flags) (found : Except Fault CodeSet) : Except Fault CodeSet :=
  if flags.resolves then found else .ok .empty

/-- What is not in a set; without Unicode the rest is one of bytes. -/
def Flags.complement (flags : Flags) (s : CodeSet) : CodeSet :=
  if flags.unicode then s.complement else (CodeSet.range 0 255).diff s

/-- In verbose mode, drops white space and comments. -/
def skipSpace (flags : Flags) : Bool → List Char → List Char
  | _, [] => []
  | true, c :: rest => if c = '\n' then skipSpace flags false rest else skipSpace flags true rest
  | false, c :: rest =>
      if !flags.verbose then c :: rest
      else if isBlank c then skipSpace flags false rest
      else if c = '#' then skipSpace flags true rest
      else c :: rest

def skip (flags : Flags) (cs : List Char) : List Char := skipSpace flags false cs

/-- A flag letter. -/
def setFlag? (c : Char) (on : Bool) (flags : Flags) : Option Flags :=
  match c with
  | 'i' => some { flags with ignoreCase := on }
  | 'm' => some { flags with multiLine := on }
  | 's' => some { flags with dotAll := on }
  | 'U' => some flags
  | 'u' => some { flags with unicode := on }
  | 'R' => some { flags with anyLineEnd := on }
  | 'x' => some { flags with verbose := on }
  | _ => none

/-- The part of an expression where a letter was seen. -/
def seenAt? (seen : List (Char × Span)) (c : Char) : Option Span :=
  (seen.find? (·.1 = c)).map (·.2)

/-- Flags up to a colon or a closing parenthesis, which is left. No flag may be repeated, nor the
hyphen that switches flags off, and a flag has to follow it. The second result is whether there
were any. -/
def readFlags (seen : List (Char × Span)) (on : Bool) (dangling : Option Span) (flags : Flags) :
    List Char → Except Fault ((Flags × Bool) × List Char)
  | [] => refuse .flagEnd (.before [])
  | c :: rest =>
      let here := Span.first (c :: rest)
      if c = ':' ∨ c = ')' then
        match dangling with
        | some place => refuse .flagDangling place
        | none => .ok ((flags, !seen.isEmpty), c :: rest)
      else
        match setFlag? c on flags with
        | none =>
            if c = '-' then
              match seenAt? seen '-' with
              | some place => .error ⟨.flagRepeatedNegation, here, some place⟩
              | none => readFlags (('-', here) :: seen) false (some here) flags rest
            else refuse .flagUnknown here
        | some new =>
            match seenAt? seen c with
            | some place => .error ⟨.flagRepeated, here, some place⟩
            | none => readFlags ((c, here) :: seen) on none new rest

/-- Adds the other cases if case does not matter. -/
def foldCase (flags : Flags) (s : CodeSet) : CodeSet :=
  if !flags.ignoreCase then s
  else if flags.unicode then s.closeUnderCase
  else s.closeUnderAsciiCase

end OutputArranger.Pattern
