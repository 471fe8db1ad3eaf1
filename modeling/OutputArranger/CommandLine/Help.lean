import OutputArranger.CommandLine.Basic

/-!
# Help

A description of a command, made from the table of commands: what it does, how it is written, and
its parts in columns.
-/

namespace OutputArranger.CommandLine

/-- Lines of two columns, the first as wide as its widest entry. -/
def columns (rows : List (String × String)) : List String :=
  let width := (rows.map fun r => r.1.length).foldl max 0
  rows.map fun (a, b) => "  " ++ a ++ "".pushn ' ' (width - a.length + 2) ++ b

/-- A titled block of lines, after an empty line; nothing without rows. -/
def block (title : String) (rows : List (String × String)) : List String :=
  if rows.isEmpty then [] else "" :: (title ++ ":") :: columns rows

/-- What is said about a parameter. -/
def remark (p : Parameter) : String :=
  if p.choices.isEmpty then p.about
  else "[possible values: " ++ ", ".intercalate p.choices ++ "]"

/-- How an option is shown. Long names stand below each other, after the room for short ones. -/
def optionRow (p : Parameter) : String × String :=
  ("    --" ++ p.name ++ " <" ++ (if p.choices.isEmpty then "PATH" else p.name.toUpper) ++ ">",
    remark p)

def helpRow : String × String := ("-h, --help", "Print help")

def versionRow : String × String := ("-V, --version", "Print version")

def helpCommandRow : String × String :=
  ("help", "Print this message or the help of the given subcommand(s)")

/-- How the values of a command are shown. -/
def valueTexts (c : CommandSyntax) : List (String × Parameter) :=
  c.values.map fun p => ("<" ++ p.name ++ ">" ++ (if c.repeats then "..." else ""), p)

def usageLine (rest : List String) : String := " ".intercalate ("Usage:" :: programName :: rest)

/-- The description in front of the usage, if there is one. -/
def opening (about usage : String) : List String :=
  if about = "" then [usage] else [about, "", usage]

def commandHelp (c : CommandSyntax) : List String :=
  let values := valueTexts c
  opening c.about
    (usageLine (c.words ++ (if c.options.isEmpty then [] else ["[OPTIONS]"]) ++
      values.map (·.1))) ++
  block "Arguments" (values.map fun (text, p) => (text, remark p)) ++
  block "Options" (c.options.map optionRow ++ [helpRow])

/-- The commands that begin with a word, by their second one. -/
def groupRows (group : String) : List (String × String) :=
  commands.filterMap fun c => match c.words with
    | [first, second] => if first = group then some (second, c.about) else none
    | _ => none

def groupHelp (group about : String) : List String :=
  opening about (usageLine [group, "<COMMAND>"]) ++
  block "Commands" (groupRows group ++ [helpCommandRow]) ++ block "Options" [helpRow]

/-- What is said about a word that begins commands. -/
def groupAbout? (word : String) : Option String :=
  (groups.find? fun g => g.1 = word).map (·.2)

/-- What is said about a first word. -/
def firstRow (word : String) : String × String :=
  match command? [word] with
  | some c => (word, c.about)
  | none => (word, (groupAbout? word).getD "")

def topHelp : List String :=
  opening "Arranges Wayland outputs automatically" (usageLine ["[OPTIONS]", "[COMMAND]"]) ++
  block "Commands" (["get", "set", "delete", "write", "replay"].map firstRow ++ [helpCommandRow]) ++
  block "Options" (topOptions.map optionRow ++ [helpRow, versionRow])

/-- The help for the words that ask for help, after those of a group. -/
def helpHelp (words : List String) : List String :=
  opening helpCommandRow.2 (usageLine (words ++ ["[COMMAND]..."])) ++
  block "Arguments" [("[COMMAND]...", "Print help for the subcommand(s)")]

/-- The help for the command of these words. -/
def help (words : List String) : String :=
  let lines := match words with
    | [] => topHelp
    | [word] => match groupAbout? word, command? [word] with
        | some about, _ => groupHelp word about
        | none, some c => commandHelp c
        | none, none => helpHelp [word]
    | words => match command? words with
        | some c => commandHelp c
        | none => helpHelp words
  String.join (lines.map (· ++ "\n"))

def versionText : String := programName ++ " " ++ programVersion ++ "\n"

end OutputArranger.CommandLine
