/-!
# The log

What is said about the course of things: a line of text with a severity. How it is laid out, with
the time and the part of the program, is left out.
-/

namespace OutputArranger

/-- How serious a line of the log is. -/
inductive Severity where
  | trace
  | debug
  | info
  | warning
  | error
deriving DecidableEq

namespace Severity

/-- The severities are ordered by this number. -/
def rank : Severity → Nat
  | .trace => 0
  | .debug => 1
  | .info => 2
  | .warning => 3
  | .error => 4

/-- How a severity is written in the log. -/
def label : Severity → String
  | .trace => "TRACE"
  | .debug => "DEBUG"
  | .info => "INFO"
  | .warning => "WARN"
  | .error => "ERROR"

end Severity

/-- One entry of the log. -/
structure Notice where
  severity : Severity
  text : String
deriving DecidableEq

namespace Notice

def trace (text : String) : Notice := ⟨.trace, text⟩

def debug (text : String) : Notice := ⟨.debug, text⟩

def info (text : String) : Notice := ⟨.info, text⟩

def warning (text : String) : Notice := ⟨.warning, text⟩

def error (text : String) : Notice := ⟨.error, text⟩

end Notice

end OutputArranger
