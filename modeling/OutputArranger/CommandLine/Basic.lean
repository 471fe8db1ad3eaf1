import OutputArranger.Control.Message
import OutputArranger.Number.Literal

/-!
# The command line

A command is named by one or two words and takes options, written `--name value`, and values. The
table of commands says what each of them takes and what it stands for.
-/

namespace OutputArranger

/-- What the program is asked to do. -/
inductive Invocation where
  /-- To arrange outputs until it is told to stop. -/
  | daemon (config recording : Option String)
  /-- To ask the running daemon. -/
  | control (request : ControlRequest)
  | replay (path : String)
deriving DecidableEq

/-- The program's name and version. -/
def programName : String := "way-layout"

def programVersion : String := "0.1.0"

/-- The name of an option, or what stands for a value in a description. -/
structure Parameter where
  name : String
  about : String
  /-- All values, if there are few. -/
  choices : List String
  accepts : String → Bool

namespace Parameter

/-- A parameter that takes any text. -/
def text (name : String) : Parameter := ⟨name, "", [], fun _ => true⟩

/-- A parameter that takes the path of a file. -/
def path (name about : String) : Parameter := ⟨name, about, [], fun s => s ≠ ""⟩

/-- A parameter that takes one of a few names, of which those shown are the usual ones. -/
def choice (name : String) (shown : List String) (accepts : String → Bool) : Parameter :=
  ⟨name, "", shown, accepts⟩

/-- A pattern for outputs. -/
def outputs : Parameter := text "NAME_DESC"

end Parameter

/-- What was given to a command. -/
structure Arguments where
  options : List (String × String)
  values : List String
deriving DecidableEq

def Arguments.none : Arguments := ⟨[], []⟩

def Arguments.option? (a : Arguments) (name : String) : Option String :=
  (a.options.find? (·.1 = name)).map (·.2)

structure CommandSyntax where
  words : List String
  about : String
  options : List Parameter
  values : List Parameter
  /-- Whether the last value may be given several times. -/
  repeats : Bool
  /-- What the command stands for. -/
  meaning : Arguments → Option Invocation

namespace CommandLine

/-- A change of the configuration. -/
def change (c : ConfigCommand) : Invocation := .control (.apply c)

/-- The options in front of a command. -/
def topOptions : List Parameter :=
  [.path "config" "Path to configuration file to use (overrides default)",
   .path "record"
    "Record reactor events to the specified file path. Overwrites the file if exists"]

/-- The name of a log threshold on the command line, where warnings have no short name. -/
def threshold? (s : String) : Option LogThreshold :=
  (LogThreshold.ofName? s).filter fun t => t.name = s

def truth? (s : String) : Option Bool :=
  if s = "true" then some true else if s = "false" then some false else none

def transformNames : List String :=
  ["normal", "90", "180", "270", "flipped", "flipped-90", "flipped-180", "flipped-270"]

/-- A command that takes one pattern. -/
def onOutputs (words : List String) (about : String) (f : String → ConfigCommand) :
    CommandSyntax :=
  ⟨words, about, [], [.outputs], false, fun a => match a.values with
    | [p] => some (change (f p))
    | _ => none⟩

/-- A command without arguments. -/
def plain (word about : String) (r : ControlRequest) : CommandSyntax :=
  ⟨[word], about, [], [], false, fun _ => some (.control r)⟩

def arrangeAlign : CommandSyntax :=
  ⟨["set", "arrange-align"], "Arrange heads in a row or a column, aligned along the other axis",
    [.choice "arrange" ["row", "column"] fun s => (Arrange.ofName? s).isSome,
     .choice "align" ["top", "middle", "bottom", "left", "right"] fun s =>
      (Align.ofName? s).isSome],
    [], false, fun a => some (change (.setArrangeAlign ((a.option? "arrange").bind Arrange.ofName?)
      ((a.option? "align").bind Align.ofName?)))⟩

def order : CommandSyntax :=
  ⟨["set", "order"], "Heads matching these names or descriptions are placed first, in order",
    [], [.outputs], true, fun a => some (change (.setOrder a.values))⟩

def autoScale : CommandSyntax :=
  ⟨["set", "auto-scale"], "", [],
    [.choice "ENABLED" ["true", "false"] fun s => (truth? s).isSome],
    false, fun a => match a.values with
      | [s] => (truth? s).map fun on => change (.setAutoScale on)
      | _ => none⟩

def setScale : CommandSyntax :=
  ⟨["set", "scale"], "", [],
    [.outputs, ⟨"SCALE", "", [], fun s => (Literal.float? s.toList).isSome⟩],
    false, fun a => match a.values with
      | [p, s] => (Literal.float? s.toList).map fun x => change (.setScale ⟨p, x⟩)
      | _ => none⟩

def setTransform : CommandSyntax :=
  ⟨["set", "transform"], "", [],
    [.outputs, .choice "TRANSFORM" transformNames fun s => (Transform.ofName? s).isSome],
    false, fun a => match a.values with
      | [p, s] => (Transform.ofName? s).map fun t => change (.setTransform ⟨p, t⟩)
      | _ => none⟩

def laptopPrefix : CommandSyntax :=
  ⟨["set", "laptop-display-prefix"], "", [], [.text "PREFIX"], false, fun a => match a.values with
    | [s] => some (change (.setLaptopPrefix s))
    | _ => none⟩

def logThreshold : CommandSyntax :=
  ⟨["set", "log-threshold"], "", [],
    [.choice "THRESHOLD" ["debug", "info", "warning", "error"] fun s => (threshold? s).isSome],
    false, fun a => match a.values with
      | [s] => (threshold? s).map fun t => change (.setThreshold t)
      | _ => none⟩

def replay : CommandSyntax :=
  ⟨["replay"],
    "Feed a recording made with --record through a reactor, without a compositor", [],
    [.path "PATH" ""], false, fun a => match a.values with
      | [p] => some (.replay p)
      | _ => none⟩

/-- Words that only begin a command. -/
def groups : List (String × String) :=
  [("set", "Change a setting of the running daemon"),
   ("delete", "Remove an entry from a list setting of the running daemon")]

def commands : List CommandSyntax :=
  [plain "get" "Print the running daemon's configuration and head state" .getConfig,
   arrangeAlign, order, autoScale, setScale, setTransform,
   onOutputs ["set", "max-preferred-refresh"]
    "Prefer the highest refresh rate at the preferred resolution" .addFastest,
   onOutputs ["set", "disabled"] "" .addDisabled,
   laptopPrefix, logThreshold,
   onOutputs ["delete", "scale"] "" .deleteScale,
   onOutputs ["delete", "transform"] "" .deleteTransform,
   onOutputs ["delete", "max-preferred-refresh"] "" .deleteFastest,
   onOutputs ["delete", "disabled"] "" .deleteDisabled,
   plain "write" "Write the running daemon's configuration to its file" .writeConfig,
   replay]

/-- The command of these words. -/
def command? (words : List String) : Option CommandSyntax := commands.find? (·.words = words)

def isGroup (words : List String) : Bool :=
  match words with
  | [] => true
  | [word] => groups.any (·.1 = word)
  | _ => false

end CommandLine

end OutputArranger
