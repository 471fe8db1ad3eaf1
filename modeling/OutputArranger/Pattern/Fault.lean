/-!
# What is wrong with an expression

A fault has a cause and a place. Its message shows the expression with the place marked below, or,
where the place goes over several lines, says from where to where it goes.
-/

namespace OutputArranger.Pattern

/-- A part of an expression, by how many characters are left where it begins and where it ends. -/
structure Span where
  start : Nat
  stop : Nat
deriving DecidableEq

namespace Span

/-- From the beginning of one rest of an expression to that of a later one. -/
def between (first last : List Char) : Span := ⟨first.length, last.length⟩

/-- The empty place in front of a rest. -/
def before (cs : List Char) : Span := ⟨cs.length, cs.length⟩

/-- The first character of a rest. -/
def first (cs : List Char) : Span := ⟨cs.length, cs.length - 1⟩

end Span

/-- Causes of faults. The last four are about what an expression stands for, the others about how it
is written. -/
inductive FaultKind where
  | classEscape
  | classRange
  | classRangeLiteral
  | classUnclosed
  | decimal
  | hexEmpty
  | hexInvalid
  | hexDigit
  | escapeEnd
  | escapeUnknown
  | flagDangling
  | flagRepeated
  | flagRepeatedNegation
  | flagEnd
  | flagUnknown
  | nameRepeated
  | nameEmpty
  | nameInvalid
  | nameEnd
  | groupUnclosed
  | groupUnopened
  | countRange
  | countEmpty
  | countUnclosed
  | nothingToRepeat
  | boundaryUnclosed
  | boundaryUnknown
  | boundaryOrCountEnd
  | propertyInvalid
  | backreference
  | lookAround
  | nesting (limit : Nat)
  | unicodeOff
  | notText
  | propertyUnknown
  | valueUnknown
deriving DecidableEq

def FaultKind.message : FaultKind → String
  | .classEscape => "invalid escape sequence found in character class"
  | .classRange => "invalid character class range, the start must be <= the end"
  | .classRangeLiteral => "invalid range boundary, must be a literal"
  | .classUnclosed => "unclosed character class"
  | .decimal => "decimal literal invalid"
  | .hexEmpty => "hexadecimal literal empty"
  | .hexInvalid => "hexadecimal literal is not a Unicode scalar value"
  | .hexDigit => "invalid hexadecimal digit"
  | .escapeEnd => "incomplete escape sequence, reached end of pattern prematurely"
  | .escapeUnknown => "unrecognized escape sequence"
  | .flagDangling => "dangling flag negation operator"
  | .flagRepeated => "duplicate flag"
  | .flagRepeatedNegation => "flag negation operator repeated"
  | .flagEnd => "expected flag but got end of regex"
  | .flagUnknown => "unrecognized flag"
  | .nameRepeated => "duplicate capture group name"
  | .nameEmpty => "empty capture group name"
  | .nameInvalid => "invalid capture group character"
  | .nameEnd => "unclosed capture group name"
  | .groupUnclosed => "unclosed group"
  | .groupUnopened => "unopened group"
  | .countRange => "invalid repetition count range, the start must be <= the end"
  | .countEmpty => "repetition quantifier expects a valid decimal"
  | .countUnclosed => "unclosed counted repetition"
  | .nothingToRepeat => "repetition operator missing expression"
  | .boundaryUnclosed =>
      "special word boundary assertion is either unclosed or contains an invalid character"
  | .boundaryUnknown =>
      "unrecognized special word boundary assertion, valid choices are: start, end, start-half " ++
        "or end-half"
  | .boundaryOrCountEnd =>
      "found either the beginning of a special word boundary or a bounded repetition on a \\b " ++
        "with an opening brace, but no closing brace"
  | .propertyInvalid => "invalid Unicode character class"
  | .backreference => "backreferences are not supported"
  | .lookAround => "look-around, including look-ahead and look-behind, is not supported"
  | .nesting limit =>
      "exceed the maximum number of nested parentheses/brackets (" ++ toString limit ++ ")"
  | .unicodeOff => "Unicode not allowed here"
  | .notText => "pattern can match invalid UTF-8"
  | .propertyUnknown => "Unicode property not found"
  | .valueUnknown => "Unicode property value not found"

structure Fault where
  kind : FaultKind
  span : Span
  /-- Another place that has to do with the fault. -/
  other : Option Span
deriving DecidableEq

/-- Ends reading with a fault. -/
def refuse {α : Type} (kind : FaultKind) (span : Span) : Except Fault α :=
  .error ⟨kind, span, none⟩

/-! ## Showing the place -/

/-- A place by line and column, both counted from one. -/
structure Position where
  line : Nat
  column : Nat
deriving DecidableEq

/-- The position behind these characters. -/
def positionAfter (cs : List Char) : Position :=
  cs.foldl (fun p c => if c = '\n' then ⟨p.line + 1, 1⟩ else { p with column := p.column + 1 })
    ⟨1, 1⟩

/-- The position in an expression at which so many characters are left. -/
def positionAt (cs : List Char) (left : Nat) : Position :=
  positionAfter (cs.take (cs.length - left))

/-- The lines of an expression; an empty one at the end does not count. -/
def splitLines : List Char → List (List Char)
  | [] => []
  | c :: rest =>
      if c = '\n' then [] :: splitLines rest
      else match splitLines rest with
        | [] => [[c]]
        | line :: more => (c :: line) :: more

/-- A line without the carriage return at its end. -/
def withoutReturn (line : List Char) : List Char :=
  if line.getLast? = some '\r' then line.dropLast else line

/-- Marks columns from `first` up to `last`, one at least, given the column reached so far. -/
def markColumns (column first last : Nat) : List Char :=
  List.replicate (first - column) ' ' ++ List.replicate (max 1 (last - first)) '^'

/-- The marks below a line for places in the order of their columns. -/
def marks (column : Nat) : List (Nat × Nat) → List Char
  | [] => []
  | (first, last) :: rest =>
      let here := markColumns column first last
      here ++ marks (column + here.length) rest

/-- The places of a fault that lie within one line, in order. -/
def Fault.spans (f : Fault) : List Span :=
  match f.other with
  | none => [f.span]
  | some o => if o.start ≥ f.span.start then [o, f.span] else [f.span, o]

/-- A line of an expression with its number, if lines are numbered, and the marks below it. -/
def shownLine (width : Nat) (places : List (Position × Position)) (number : Nat)
    (line : List Char) : List Char :=
  let label := (toString number).toList
  let lead := if width = 0 then List.replicate 4 ' '
    else List.replicate (width - label.length) ' ' ++ label ++ [':', ' ']
  let here := places.filter fun (a, b) => a.line = b.line && a.line = number
  let below := match here with
    | [] => []
    | _ => List.replicate (if width = 0 then 4 else width + 2) ' ' ++
        marks 1 (here.map fun (a, b) => (a.column, b.column)) ++ ['\n']
  lead ++ withoutReturn line ++ ['\n'] ++ below

/-- The numbered lines of an expression. -/
def shownLines (width : Nat) (places : List (Position × Position)) (number : Nat) :
    List (List Char) → List Char
  | [] => []
  | line :: rest =>
      shownLine width places number line ++ shownLines width places (number + 1) rest

/-- How many digits the number of the last line has; none where there is only one line. -/
def numberWidth (cs : List Char) : Nat :=
  let count := (splitLines cs).length + (if cs.getLast? = some '\n' then 1 else 0)
  if count ≤ 1 then 0 else (toString count).length

/-- From where to where a place goes that covers several lines. -/
def longPlace (a b : Position) : String :=
  "on line " ++ toString a.line ++ " (column " ++ toString a.column ++ ") through line " ++
    toString b.line ++ " (column " ++ toString (b.column - 1) ++ ")"

/-- The message about a fault of an expression. -/
def Fault.message (f : Fault) (cs : List Char) : String :=
  let places := f.spans.map fun s => (positionAt cs s.start, positionAt cs s.stop)
  let lines := String.ofList (shownLines (numberWidth cs) places 1 (splitLines cs))
  let long := places.filter fun (a, b) => a.line ≠ b.line
  let text := "error: " ++ f.kind.message
  let rule := "".pushn '~' 79 ++ "\n"
  "regex parse error:\n" ++
    (if '\n' ∈ cs then
      rule ++ lines ++ rule ++
        (if long = [] then "" else "\n".intercalate (long.map fun (a, b) => longPlace a b) ++ "\n")
    else lines) ++ text

end OutputArranger.Pattern
