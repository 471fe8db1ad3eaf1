import OutputArranger.Config.Basic
import OutputArranger.Log.Notice

/-!
# Which entries are shown

The log shows entries from some severity on. The configuration sets it, unless a list of directives
does: each names a severity, or a part of the program and a severity for it. Of several directives
for this program the most specific one counts.
-/

namespace OutputArranger

/-- The least severity that is shown; none when nothing is. -/
structure LogFilter where
  least : Option Severity
deriving DecidableEq

namespace LogFilter

def shows (f : LogFilter) (s : Severity) : Bool :=
  f.least.any fun l => decide (l.rank ≤ s.rank)

/-- The entries that are shown. -/
def shown (f : LogFilter) (log : List Notice) : List Notice :=
  log.filter fun n => f.shows n.severity

def ofThreshold : LogThreshold → LogFilter
  | .debug => ⟨some .debug⟩
  | .info => ⟨some .info⟩
  | .warning => ⟨some .warning⟩
  | .error => ⟨some .error⟩

/-- The severity of a word or digit, in any case. -/
def ofLevel? (word : List Char) : Option LogFilter :=
  match String.ofList (word.map Char.toLower) with
  | "trace" | "5" => some ⟨some .trace⟩
  | "debug" | "4" => some ⟨some .debug⟩
  | "info" | "3" => some ⟨some .info⟩
  | "warn" | "2" => some ⟨some .warning⟩
  | "error" | "1" => some ⟨some .error⟩
  | "off" | "0" => some ⟨none⟩
  | _ => none

/-- A severity for parts of a program whose names begin alike. -/
structure Directive where
  start : List Char
  filter : LogFilter
deriving DecidableEq

/-- What a directive shows of a part for which it names no severity: everything. -/
def everything : LogFilter := ⟨some .trace⟩

def isTargetChar (c : Char) : Bool := c.isAlphanum || c = '_' || c = ':' || c = '-'

/-- Reads one directive. -/
def directive? (text : List Char) : Option Directive :=
  match ofLevel? text with
  | some f => some ⟨[], f⟩
  | none =>
      let target := text.takeWhile isTargetChar
      match target, text.dropWhile isTargetChar with
      | [], _ => none
      | _, [] => some ⟨target, everything⟩
      | _, ['='] => some ⟨target, everything⟩
      | _, '=' :: level => (ofLevel? level).map fun f => ⟨target, f⟩
      | _, _ => none

/-- The name under which this program writes its log. -/
def programTarget : List Char := "way_layout".toList

/-- The more specific of two directives, the second if neither is. -/
def choose (best : Option Directive) (d : Directive) : Option Directive :=
  if d.start.isPrefixOf programTarget then
    match best with
    | none => some d
    | some b => if b.start.length ≤ d.start.length then some d else some b
  else best

/-- The filter of a list of directives; none if they cannot be read. An empty list shows errors. -/
def ofText? (text : String) : Option LogFilter :=
  match ((text.splitOn ",").filter (· ≠ "")).mapM fun d => directive? d.toList with
  | none => none
  | some [] => some ⟨some .error⟩
  | some directives =>
      match directives.foldl choose none with
      | some d => some d.filter
      | none => some ⟨none⟩

end LogFilter

end OutputArranger
