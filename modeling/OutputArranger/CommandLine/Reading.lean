import OutputArranger.CommandLine.Basic

/-!
# Reading the command line

Words are read from left to right, and the first that cannot be meant, or that asks for help, ends
the reading. A word that begins with a hyphen is an option, save for the hyphen alone; after two
hyphens every word is a value.
-/

namespace OutputArranger

/-- Why the program is asked to do nothing. -/
inductive ReadingEnd where
  /-- The words make no command. -/
  | usage
  /-- Help is wanted for the command of these words. -/
  | help (words : List String)
  | version
deriving DecidableEq

namespace CommandLine

/-- Whether a word is an option rather than a value. -/
def isOption (word : String) : Bool := word.startsWith "-" && word ≠ "-"

/-- Whether a word asks for help: in full, or with a short option that comes first. -/
def asksHelp (word : String) : Bool := word = "--help" || word.startsWith "-h"

def asksVersion (word : String) : Bool := word = "--version" || word.startsWith "-V"

/-- The name of an option, and what follows an equals sign. -/
def splitOption (word : String) : Option (String × Option String) :=
  match word.toList with
  | '-' :: '-' :: cs =>
      let name := String.ofList (cs.takeWhile (· ≠ '='))
      match cs.dropWhile (· ≠ '=') with
      | [] => some (name, none)
      | _ :: value => some (name, some (String.ofList value))
  | _ => none

/-- Takes an option with its value. No option may be given twice. -/
def takeOption (options : List Parameter) (a : Arguments) (name value : String) :
    Except ReadingEnd Arguments :=
  match options.find? (·.name = name) with
  | none => .error .usage
  | some p =>
      if (a.option? name).isNone && p.accepts value then
        .ok { a with options := a.options ++ [(name, value)] }
      else .error .usage

/-- The parameter of the next value, after `count` others. -/
def valueParameter? (c : CommandSyntax) (count : Nat) : Option Parameter :=
  if c.repeats && decide (c.values.length ≤ count) then c.values.getLast? else c.values[count]?

/-- Takes a value. -/
def takeValue (c : CommandSyntax) (a : Arguments) (value : String) : Except ReadingEnd Arguments :=
  match valueParameter? c a.values.length with
  | none => .error .usage
  | some p =>
      if p.accepts value then .ok { a with values := a.values ++ [value] } else .error .usage

/-- Takes values only. -/
def readValues (c : CommandSyntax) (a : Arguments) : List String → Except ReadingEnd Arguments
  | [] => .ok a
  | word :: rest =>
      match takeValue c a word with
      | .error e => .error e
      | .ok b => readValues c b rest

/-- Reads the arguments of a command. -/
def readArguments (c : CommandSyntax) (a : Arguments) : List String → Except ReadingEnd Arguments
  | [] => .ok a
  | word :: rest =>
      if word = "--" then readValues c a rest
      else if asksHelp word then .error (.help c.words)
      else if isOption word then
        match splitOption word with
        | none => .error .usage
        | some (name, some value) =>
            match takeOption c.options a name value with
            | .error e => .error e
            | .ok b => readArguments c b rest
        | some (name, none) =>
            match rest with
            | [] => .error .usage
            | value :: rest =>
                if isOption value then .error .usage
                else match takeOption c.options a name value with
                  | .error e => .error e
                  | .ok b => readArguments c b rest
      else match takeValue c a word with
        | .error e => .error e
        | .ok b => readArguments c b rest

/-- Reads a command once its words are known. -/
def readCommand (c : CommandSyntax) (words : List String) : Except ReadingEnd Invocation :=
  match readArguments c .none words with
  | .error e => .error e
  | .ok a =>
      if a.values.length < c.values.length then .error .usage
      else match c.meaning a with
        | none => .error .usage
        | some i => .ok i

/-- Reads a request for help on the command of the words that follow. -/
def readHelp (words : List String) : List String → ReadingEnd
  | [] => .help words
  | word :: rest =>
      if (isGroup words && word = "help") || isGroup (words ++ [word]) ||
          (command? (words ++ [word])).isSome then
        readHelp (words ++ [word]) rest
      else .usage

/-- Reads what follows the first word of a command that has two. -/
def readGroup (group : String) : List String → Except ReadingEnd Invocation
  | [] => .error .usage
  | word :: rest =>
      if word = "help" then .error (readHelp [group] rest)
      else if asksHelp word then .error (.help [group])
      else match command? [group, word] with
        | none => .error .usage
        | some c => readCommand c rest

/-- Reads the first word of a command and what follows. -/
def readFirst (word : String) (rest : List String) : Except ReadingEnd Invocation :=
  if word = "help" then .error (readHelp [] rest)
  else if isGroup [word] then readGroup word rest
  else match command? [word] with
    | none => .error .usage
    | some c => readCommand c rest

/-- Reads a command line, given the options so far. Without a command the daemon is meant. -/
def readFrom (a : Arguments) : List String → Except ReadingEnd Invocation
  | [] => .ok (.daemon (a.option? "config") (a.option? "record"))
  | word :: rest =>
      if word = "--" then if rest = [] then readFrom a [] else .error .usage
      else if asksHelp word then .error (.help [])
      else if asksVersion word then .error .version
      else if isOption word then
        match splitOption word with
        | none => .error .usage
        | some (name, some value) =>
            match takeOption topOptions a name value with
            | .error e => .error e
            | .ok b => readFrom b rest
        | some (name, none) =>
            match rest with
            | [] => .error .usage
            | value :: rest =>
                if isOption value then .error .usage
                else match takeOption topOptions a name value with
                  | .error e => .error e
                  | .ok b => readFrom b rest
      else readFirst word rest

/-- What a command line asks for. -/
def read (words : List String) : Except ReadingEnd Invocation := readFrom .none words

end CommandLine

end OutputArranger
