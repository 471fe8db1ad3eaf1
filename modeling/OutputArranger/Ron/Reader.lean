import OutputArranger.Ron.Token

/-!
# Reading record notation

The reader is a machine over tokens, like the one for JSON: it keeps the groups, lists and tables
that are still open. A line may begin with attributes that choose a dialect, and holds one value.
-/

namespace OutputArranger.Ron

/-- What the attributes of a text change. -/
structure Dialect where
  /-- Single values stand without the parentheses of their type. -/
  unwrapsTypes : Bool
  /-- Optional values stand without a mark. -/
  impliesSome : Bool
  /-- The fields of a named record stand directly behind the name. -/
  unwrapsVariants : Bool
  /-- Every type has to be named. -/
  namesTypes : Bool
deriving DecidableEq

namespace Dialect

def plain : Dialect := ⟨false, false, false, false⟩

/-- The dialect with one more attribute. -/
def with? (d : Dialect) (mark : String) : Option Dialect :=
  if mark = "unwrap_newtypes" then some { d with unwrapsTypes := true }
  else if mark = "implicit_some" then some { d with impliesSome := true }
  else if mark = "unwrap_variant_newtypes" then some { d with unwrapsVariants := true }
  else if mark = "explicit_struct_names" then some { d with namesTypes := true }
  else none

end Dialect

/-- Reads attributes up to the end of their list. -/
def readAttributes (d : Dialect) : List Token → Option (Dialect × List Token)
  | .name a :: .comma :: .closeGroup :: .closeList :: rest => (d.with? a).map (·, rest)
  | .name a :: .comma :: rest => do readAttributes (← d.with? a) rest
  | .name a :: .closeGroup :: .closeList :: rest => (d.with? a).map (·, rest)
  | _ => none

/-- Reads all lists of attributes at the start; the fuel exceeds the number of tokens. -/
def readDialect : Nat → Dialect → List Token → Option (Dialect × List Token)
  | 0, _, _ => none
  | fuel + 1, d, .hash :: .bang :: .openList :: .name "enable" :: .openGroup :: rest => do
      let (d, rest) ← readAttributes d rest
      readDialect fuel d rest
  | _ + 1, _, .hash :: _ => none
  | _ + 1, d, tokens => some (d, tokens)

/-- A value that is still open; what it holds so far is in reverse. -/
inductive Frame where
  | list (items : List Ron)
  | group (name : Option String) (items : List Ron)
  | record (name : Option String) (fields : List (String × Ron)) (key : String)
  | tableKey
  | tableValue

/-- What the reader expects, inside the frames that are open, the innermost first. -/
inductive Reader where
  | value (frames : List Frame)
  /-- A value, or the end of the innermost frame. -/
  | item (frames : List Frame)
  /-- The name of a field, or the end of the record. -/
  | field (name : Option String) (fields : List (String × Ron)) (frames : List Frame)
  | colon (name : Option String) (fields : List (String × Ron)) (key : String)
      (frames : List Frame)
  /-- Behind a name, which may belong to the group that follows. -/
  | named (name : String) (frames : List Frame)
  | after (value : Ron) (frames : List Frame)

namespace Reader

/-- Reads a token where a value has to begin. -/
def beginValue (frames : List Frame) : Token → Option Reader
  | .openGroup => some (.item (.group none [] :: frames))
  | .openList => some (.item (.list [] :: frames))
  | .openTable => some (.item (.tableKey :: frames))
  | .name n => some (.named n frames)
  | .number n => some (.after (.number n) frames)
  | .string s => some (.after (.string s) frames)
  | .foreign => some (.after .foreign frames)
  | _ => none

/-- Reads a token behind a complete value. -/
def continueAfter (v : Ron) : List Frame → Token → Option Reader
  | .list items :: frames, .comma => some (.item (.list (v :: items) :: frames))
  | .list items :: frames, .closeList => some (.after (.list (v :: items).reverse) frames)
  | .group n items :: frames, .comma => some (.item (.group n (v :: items) :: frames))
  | .group n items :: frames, .closeGroup => some (.after (.group n (v :: items).reverse) frames)
  | .record n fields key :: frames, .comma => some (.field n ((key, v) :: fields) frames)
  | .record n fields key :: frames, .closeGroup =>
      some (.after (.record n ((key, v) :: fields).reverse) frames)
  | .tableKey :: frames, .colon => some (.value (.tableValue :: frames))
  | .tableValue :: frames, .comma => some (.item (.tableKey :: frames))
  | .tableValue :: frames, .closeTable => some (.after .foreign frames)
  | _, _ => none

/-- Reads one token. -/
def step : Reader → Token → Option Reader
  | .value frames, t => beginValue frames t
  | .item (.list items :: frames), .closeList => some (.after (.list items.reverse) frames)
  | .item (.group n items :: frames), .closeGroup => some (.after (.group n items.reverse) frames)
  | .item (.tableKey :: frames), .closeTable => some (.after .foreign frames)
  | .item frames, t => beginValue frames t
  | .field n fields frames, .closeGroup => some (.after (.record n fields.reverse) frames)
  | .field n fields frames, .name key => some (.colon n fields key frames)
  | .colon n fields key frames, .colon => some (.value (.record n fields key :: frames))
  | .named n frames, .openGroup => some (.item (.group (some n) [] :: frames))
  | .named key (.group n [] :: frames), .colon => some (.value (.record n [] key :: frames))
  | .named n frames, t => continueAfter (.name n) frames t
  | .after v frames, t => continueAfter v frames t
  | _, _ => none

/-- Reads the tokens still to come. -/
def run (s : Reader) : List Token → Option Ron
  | [] => match s with
    | .named n [] => some (.name n)
    | .after v [] => some v
    | _ => none
  | t :: rest => match s.step t with
    | none => none
    | some next => next.run rest

end Reader

/-- The dialect and the value of a text. -/
def parse (text : String) : Option (Dialect × Ron) := do
  let tokens ← tokenize text.toList
  let (d, tokens) ← readDialect (tokens.length + 1) .plain tokens
  some (d, ← Reader.run (.value []) tokens)

/-! ### Values of particular kinds -/

def asString? : Ron → Option String
  | .string s => some s
  | _ => none

def asBool? : Ron → Option Bool
  | .name "true" => some true
  | .name "false" => some false
  | _ => none

/-- A name that stands alone. -/
def asName? : Ron → Option String
  | .name n => some n
  | _ => none

/-- A whole number within bounds, of the kind that its suffix may name. -/
def asInteger? (kind : String) (low high : Int) : Ron → Option Int
  | .number s => (integer? kind s).filter fun i => low ≤ i ∧ i ≤ high
  | _ => none

/-- A signed number of 32 bits. -/
def asInt32? : Ron → Option Int := asInteger? "i32" (-2147483648) 2147483647

/-- An unsigned number of 32 bits. -/
def asNat32? (v : Ron) : Option Nat := (asInteger? "u32" 0 4294967295 v).map Int.toNat

def asFloat? : Ron → Option Binary64
  | .number s => float? s
  | .name s => float? s
  | _ => none

def asList? : Ron → Option (List Ron)
  | .list items => some items
  | _ => none

def asStrings? (v : Ron) : Option (List String) := do
  (← v.asList?).mapM asString?

namespace Dialect

/-- Whether the name in front of a group may stand for a type. -/
def fits (d : Dialect) (type : String) : Option String → Bool
  | none => !d.namesTypes
  | some n => n = type

/-- Whether a value is a number that stands alone. -/
def isNumberValue : Ron → Bool
  | .number _ => true
  | _ => false

/-- The only value inside the parentheses of a type. -/
def inner? (d : Dialect) (type : String) (v : Ron) : Option Ron :=
  if d.unwrapsTypes || d.unwrapsVariants && isNumberValue v then some v
  else match v with
    | .group n [v] => if d.fits type n then some v else none
    | _ => none

/-- The fields of a record of a type. -/
def fields? (d : Dialect) (type : String) : Ron → Option (List (String × Ron))
  | .record n fields => if d.fits type n then some fields else none
  | .group n [] => if d.fits type n then some [] else none
  | _ => none

/-- The name of a variant and the only value that it holds. -/
def variant? (d : Dialect) : Ron → Option (String × Ron)
  | .group (some n) [v] => some (n, v)
  | .record (some n) fields => if d.unwrapsVariants then some (n, .record none fields) else none
  | _ => none

/-- An optional value. -/
def option? {α : Type} (d : Dialect) (read : Ron → Option α) : Ron → Option (Option α)
  | .name "None" => some none
  | .group (some "Some") [v] => (read v).map some
  | v => if d.impliesSome then (read v).map some else none

end Dialect

/-- The value of a field: `none` when it is repeated, `some none` when it is missing. -/
def unique? (key : String) (fields : List (String × Ron)) : Option (Option Ron) :=
  match fields.filter (·.1 = key) with
  | [] => some none
  | [(_, v)] => some (some v)
  | _ => none

/-- The value of a field that has to be there. -/
def required? (key : String) (fields : List (String × Ron)) : Option Ron :=
  (unique? key fields).join

end OutputArranger.Ron
