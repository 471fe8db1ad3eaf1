import OutputArranger.Json.Token
import OutputArranger.Number.Literal
import OutputArranger.Text.Quoted

/-!
# Record notation

Values as they stand on the lines of a recording: names, numbers, strings, lists, and groups in
parentheses. A group holds items or named fields, and a name may stand in front of it. Here are
the values, their text, and how numbers are read.
-/

namespace OutputArranger

inductive Ron where
  | name (text : String)
  | number (text : String)
  | string (text : String)
  | list (items : List Ron)
  | group (name : Option String) (items : List Ron)
  | record (name : Option String) (fields : List (String × Ron))
  /-- A value of a kind that no recording holds: a character, bytes, or a table. -/
  | foreign

namespace Ron

/-! ### Names -/

/-- A character that may begin a name. -/
def startsName (c : Char) : Bool := c = '_' || Unicode.isAlphabetic c

/-- A character that may stand inside a name. -/
def inName (c : Char) : Bool := Unicode.isWord c

/-- A character that may stand inside a marked name. -/
def inMarkedName (c : Char) : Bool := inName c || c = '.' || c = '+' || c = '-'

/-- Names with a meaning of their own. -/
def reserved : List String :=
  ["true", "false", "Some", "None", "inf", "inff32", "inff64", "NaN", "NaNf32", "NaNf64"]

/-- Whether a name stands for itself without a mark. -/
def isPlainName (s : String) : Bool :=
  match s.toList with
  | [] => false
  | c :: rest => startsName c && rest.all inName && !reserved.contains s

/-- A name; one that does not look like a name is marked. -/
def nameText (s : String) : List Char :=
  if isPlainName s then s.toList else 'r' :: '#' :: s.toList

/-! ### Text -/

/-- A character between quotes. -/
def escaped (c : Char) : List Char := if c = '\'' then ['\\', '\''] else Quoted.escaped c

def stringText (s : String) : List Char := '"' :: (s.toList.flatMap escaped ++ ['"'])

def optionNameText : Option String → List Char
  | none => []
  | some n => nameText n

mutual

/-- The text of a value, without blanks. Reserved names are written as they are. -/
def text : Ron → List Char
  | .name s => if reserved.contains s then s.toList else nameText s
  | .number s => s.toList
  | .string s => stringText s
  | .list items => '[' :: (itemsText items ++ [']'])
  | .group none items => '(' :: (itemsText items ++ [')'])
  | .group (some "Some") items => ['S', 'o', 'm', 'e', '('] ++ itemsText items ++ [')']
  | .group (some n) items => nameText n ++ '(' :: (itemsText items ++ [')'])
  | .record n fields => optionNameText n ++ '(' :: (fieldsText fields ++ [')'])
  | .foreign => ['(', ')']

def itemsText : List Ron → List Char
  | [] => []
  | [v] => text v
  | v :: rest => text v ++ ',' :: itemsText rest

def fieldsText : List (String × Ron) → List Char
  | [] => []
  | [(key, v)] => nameText key ++ ':' :: text v
  | (key, v) :: rest => nameText key ++ ':' :: (text v ++ ',' :: fieldsText rest)

end

/-! ### Numbers -/

/-- The digits of a whole number in a base; underscores may stand behind the first digit. -/
def digits? (base : Nat) : List Char → Option Nat
  | [] => none
  | '_' :: _ => none
  | cs =>
      (cs.filter (· ≠ '_')).foldl (fun n c => do
        let digit ← Json.hexValue? c
        if digit < base then some ((← n) * base + digit) else none) (some 0)

/-- A whole number without a sign, in base ten or behind the mark of another base. -/
def magnitude? : List Char → Option Nat
  | '0' :: 'b' :: digits => digits? 2 digits
  | '0' :: 'o' :: digits => digits? 8 digits
  | '0' :: 'x' :: digits => digits? 16 digits
  | digits => digits? 10 digits

/-- Drops a suffix that names the kind of a number. -/
def dropKind (kind : List Char) (cs : List Char) : List Char :=
  if kind.reverse.isPrefixOf cs.reverse then cs.take (cs.length - kind.length) else cs

/-- A whole number, perhaps with a sign and the suffix of its kind. -/
def integer? (kind : String) (s : String) : Option Int :=
  let (negative, body) := Literal.splitSign (dropKind kind.toList s.toList)
  (magnitude? body).map fun n => if negative then -(n : Int) else n

/-- Whether each underscore stands behind a digit, an exponent mark or another underscore. -/
def underscoresFit (allowed : Bool) : List Char → Bool
  | [] => true
  | c :: rest =>
      if c = '_' then allowed && underscoresFit allowed rest
      else if c.isDigit ∨ c = 'e' ∨ c = 'E' then underscoresFit true rest
      else underscoresFit (allowed && c ≠ '.') rest

/-- The words for floats without digits. -/
def floatWord? (cs : List Char) : Option Binary64 :=
  let (negative, body) := Literal.splitSign cs
  if body = ['i', 'n', 'f'] then some (.infinity negative)
  else if body = ['N', 'a', 'N'] then some { Binary64.nan with negative }
  else none

/-- A float, perhaps with the suffix of its kind. -/
def float? (s : String) : Option Binary64 :=
  let cs := dropKind ['f', '6', '4'] s.toList
  match floatWord? cs with
  | some x => some x
  | none =>
      if cs.all (fun c => c.isDigit || "+-._eE".toList.contains c) && underscoresFit false cs then
        Literal.float? (cs.filter (· ≠ '_'))
      else none

/-- The kinds of numbers that a suffix may name. -/
def kinds : List String :=
  ["i8", "i16", "i32", "i64", "u8", "u16", "u32", "u64"]

/-- Whether a text is a number of any kind. -/
def isNumber (s : String) : Bool :=
  (kinds.any fun k => (integer? k s).isSome) || (float? s).isSome ||
    (float? (String.ofList (dropKind ['f', '3', '2'] s.toList))).isSome

/-- The text of a float: always with a point or a word. -/
def ofFloat (x : Binary64) : Ron :=
  if x.isNaN then
    if x.negative then .number "-NaN" else .name "NaN"
  else if x.isInfinite then
    if x.negative then .number "-inf" else .name "inf"
  else .number x.pointed

def ofInt (i : Int) : Ron := .number (toString i)

def ofBool (b : Bool) : Ron := .name (if b then "true" else "false")

def ofStrings (xs : List String) : Ron := .list (xs.map .string)

def ofOption : Option Ron → Ron
  | none => .name "None"
  | some v => .group (some "Some") [v]

end Ron

end OutputArranger
