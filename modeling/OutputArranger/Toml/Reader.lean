import OutputArranger.Toml.Scalar
import OutputArranger.Toml.Text

/-!
# Reading TOML

A document is read as a list of statements, one a line: an entry, or the header of a table or of
one more table of a list. What the statements amount to is decided afterwards.
-/

namespace OutputArranger.Toml

/-- One line of a document. Keys may consist of several parts joined by dots. -/
inductive Statement where
  | entry (path : List String) (value : Value)
  | table (path : List String)
  | listedTable (path : List String)

def isBlank (c : Char) : Bool := c = ' ' || c = '\t'

def dropBlanks (cs : List Char) : List Char := cs.dropWhile isBlank

/-- Characters that may stand in a comment. -/
def isCommentChar (c : Char) : Bool := Text.isPlain c

/-- The rest after a comment, which runs to the end of its line; control characters are refused. -/
def dropComment (cs : List Char) : Option (List Char) :=
  match cs.dropWhile isCommentChar with
  | [] => some []
  | '\n' :: rest => some ('\n' :: rest)
  | '\r' :: '\n' :: rest => some ('\r' :: '\n' :: rest)
  | _ => none

/-- The end of a line: blanks, perhaps a comment, and a line break or the end of the text. -/
def endLine (cs : List Char) : Option (List Char) := do
  let cs ← match dropBlanks cs with
    | '#' :: rest => dropComment rest
    | cs => some cs
  match cs with
  | [] => some []
  | '\n' :: rest => some rest
  | '\r' :: '\n' :: rest => some rest
  | _ => none

/-- Inside an array or an inline table, blanks, comments and line breaks may stand between the
parts; `fuel` bounds how many there are. -/
def dropFiller : Nat → List Char → Option (List Char)
  | 0, _ => none
  | fuel + 1, cs =>
      match dropBlanks cs with
      | '\n' :: rest => dropFiller fuel rest
      | '\r' :: '\n' :: rest => dropFiller fuel rest
      | '#' :: rest => (dropComment rest).bind (dropFiller fuel)
      | cs => some cs

/-- Characters of a key without quotes. -/
def isKeyChar (c : Char) : Bool := c.isAlphanum || c = '_' || c = '-'

/-- One part of a key. Only the forms of strings on one line may be used. -/
def readKeyPart (cs : List Char) : Option (String × List Char) :=
  match cs with
  | '"' :: rest => (Text.readBasic rest).map fun (k, rest) => (String.ofList k, rest)
  | '\'' :: rest => (Text.readLiteral rest).map fun (k, rest) => (String.ofList k, rest)
  | cs =>
      let word := cs.takeWhile isKeyChar
      if word = [] then none else some (String.ofList word, cs.dropWhile isKeyChar)

/-- A key of several parts. -/
def readKey : Nat → List Char → Option (List String × List Char)
  | 0, _ => none
  | fuel + 1, cs => do
      let (part, rest) ← readKeyPart (dropBlanks cs)
      match dropBlanks rest with
      | '.' :: rest => do
          let (parts, rest) ← readKey fuel rest
          some (part :: parts, rest)
      | rest => some ([part], rest)

/-- Where a word without quotes ends. -/
def endsWord (c : Char) : Bool :=
  c = ' ' || c = '\t' || c = '\n' || c = '\r' || c = ',' || c = ']' || c = '\x7d' || c = '#'

/-- A word without quotes. A time may follow a date after one space. -/
def readWord (cs : List Char) : Option (Value × List Char) :=
  let word := cs.takeWhile (!endsWord ·)
  let rest := cs.dropWhile (!endsWord ·)
  match readDate word, rest with
  | some [], ' ' :: c :: more =>
      if c.isDigit then
        (readScalar (word ++ ' ' :: (c :: more).takeWhile (!endsWord ·))).map
          (·, (c :: more).dropWhile (!endsWord ·))
      else (readScalar word).map (·, rest)
  | _, _ => (readScalar word).map (·, rest)

/-- What a key of an inline table under construction holds: a value, or a table that stems from
dotted keys and may still grow. -/
inductive Inline where
  | value (v : Value)
  | dotted (entries : List (String × Inline))

mutual

def Inline.toValue : Inline → Value
  | .value v => v
  | .dotted entries => .table (Inline.toEntries entries)

def Inline.toEntries : List (String × Inline) → List (String × Value)
  | [] => []
  | (key, i) :: rest => (key, i.toValue) :: Inline.toEntries rest

end

/-- The entries with one more value under a key of several parts. A key that is taken is refused,
but dotted keys may share their first parts. -/
def Inline.insert (v : Value) : List String → List (String × Inline) →
    Option (List (String × Inline))
  | [], _ => none
  | [key], entries =>
      if entries.any (·.1 = key) then none else some (entries ++ [(key, .value v)])
  | key :: path, entries =>
      match entries.find? (·.1 = key) with
      | none => (Inline.insert v path []).map fun inner => entries ++ [(key, .dotted inner)]
      | some (_, .value _) => none
      | some (_, .dotted inner) =>
          (Inline.insert v path inner).map fun inner =>
            entries.map fun e => if e.1 = key then (key, .dotted inner) else e

/-- Arrays and inline tables nested deeper than this are refused. -/
def nestingLimit : Nat := 80

mutual

/-- A value. `depth` is how deep it may still be nested and `fuel` bounds the steps. -/
def readValue : Nat → Nat → List Char → Option (Value × List Char)
  | 0, _, _ => none
  | fuel + 1, depth, cs =>
      match cs with
      | '"' :: _ => (Text.read cs).map fun (s, rest) => (.string (String.ofList s), rest)
      | '\'' :: _ => (Text.read cs).map fun (s, rest) => (.string (String.ofList s), rest)
      | '[' :: rest =>
          match depth with
          | 0 => none
          | depth + 1 =>
              (readItems fuel depth rest).map fun (items, rest) => (.array items, rest)
      | '\x7b' :: rest =>
          match depth with
          | 0 => none
          | depth + 1 =>
              (readEntries fuel depth [] rest).map fun (entries, rest) =>
                (.table (Inline.toEntries entries), rest)
      | cs => readWord cs

/-- The items of an array and the bracket that closes it. A comma may follow the last item. -/
def readItems : Nat → Nat → List Char → Option (List Value × List Char)
  | 0, _, _ => none
  | fuel + 1, depth, cs => do
      match ← dropFiller (cs.length + 1) cs with
      | ']' :: rest => some ([], rest)
      | cs => do
          let (v, rest) ← readValue fuel depth cs
          match ← dropFiller (rest.length + 1) rest with
          | ',' :: rest => do
              let (items, rest) ← readItems fuel depth rest
              some (v :: items, rest)
          | ']' :: rest => some ([v], rest)
          | _ => none

/-- The entries of an inline table and the brace that closes it. A comma may follow the last
entry. -/
def readEntries : Nat → Nat → List (String × Inline) → List Char →
    Option (List (String × Inline) × List Char)
  | 0, _, _, _ => none
  | fuel + 1, depth, seen, cs => do
      match ← dropFiller (cs.length + 1) cs with
      | '\x7d' :: rest => some (seen, rest)
      | cs => do
          let (path, rest) ← readKey (cs.length + 1) cs
          match rest with
          | '=' :: rest => do
              let (v, rest) ← readValue fuel depth (dropBlanks rest)
              let seen ← Inline.insert v path seen
              match ← dropFiller (rest.length + 1) rest with
              | ',' :: rest => readEntries fuel depth seen rest
              | '\x7d' :: rest => some (seen, rest)
              | _ => none
          | _ => none

end

/-- One statement, from the first character that is not blank. -/
def readStatement (cs : List Char) : Option (Statement × List Char) :=
  match cs with
  | '[' :: '[' :: rest => do
      let (path, rest) ← readKey (rest.length + 1) rest
      match rest with
      | ']' :: ']' :: rest => some (.listedTable path, ← endLine rest)
      | _ => none
  | '[' :: rest => do
      let (path, rest) ← readKey (rest.length + 1) rest
      match rest with
      | ']' :: rest => some (.table path, ← endLine rest)
      | _ => none
  | cs => do
      let (path, rest) ← readKey (cs.length + 1) cs
      match rest with
      | '=' :: rest => do
          let (v, rest) ← readValue (rest.length + 1) nestingLimit (dropBlanks rest)
          some (.entry path v, ← endLine rest)
      | _ => none

/-- Whether nothing but a comment is left on the line. -/
def isEmptyLine (cs : List Char) : Bool :=
  match cs with
  | [] => true
  | '#' :: _ => true
  | '\n' :: _ => true
  | '\r' :: _ => true
  | _ => false

/-- All statements of a text. -/
def readStatements : Nat → List Char → Option (List Statement)
  | 0, _ => none
  | fuel + 1, cs =>
      match cs with
      | [] => some []
      | cs =>
          let line := dropBlanks cs
          if isEmptyLine line then (endLine line).bind (readStatements fuel)
          else do
            let (s, rest) ← readStatement line
            let more ← readStatements fuel rest
            some (s :: more)

/-- The statements of a document. A byte order mark may come first. -/
def statements (cs : List Char) : Option (List Statement) :=
  let cs := match cs with
    | '\ufeff' :: rest => rest
    | cs => cs
  readStatements (cs.length + 1) cs

end OutputArranger.Toml
