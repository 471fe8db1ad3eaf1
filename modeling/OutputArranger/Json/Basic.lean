import OutputArranger.Number.Decimal

/-!
# JSON values

Objects keep their members in the order in which they were written, repeated keys included, so
that a reader of a particular message can tell a repeated member from a single one. `canonical`
is the form in which two documents with the same content are equal: members sorted by key, the
last of several members of one key kept.
-/

namespace OutputArranger

/-- A JSON number: a whole number of 64 bits, or a float. -/
inductive Json.Number where
  | whole (value : Int)
  | real (value : Binary64)
deriving DecidableEq

inductive Json where
  | null
  | bool (value : Bool)
  | number (value : Json.Number)
  | string (text : String)
  | array (items : List Json)
  | object (members : List (String × Json))

namespace Json

/-- A whole number. -/
def int (i : Int) : Json := .number (.whole i)

def nat (n : Nat) : Json := .number (.whole n)

/-- A float; null when it is not finite, which JSON cannot write. -/
def float (x : Binary64) : Json :=
  if x.isFinite then .number (.real x) else .null

/-- What stands for a string that is no text and for an object with such a key. Like a number that
is out of range it is of no use to a reader, but it may be passed over. -/
def garbled : Json := .number (.real .nan)

/-- The text of an optional string, or null. -/
def optionString : Option String → Json
  | none => .null
  | some s => .string s

/-- Puts a member in its place among members sorted by key, replacing one of the same key. -/
def insertMember (key : String) (value : Json) : List (String × Json) → List (String × Json)
  | [] => [(key, value)]
  | (k, v) :: rest =>
      if key < k then (key, value) :: (k, v) :: rest
      else if key = k then (key, value) :: rest
      else (k, v) :: insertMember key value rest

mutual

/-- Members sorted by key throughout, the last of equal keys kept. -/
def canonical : Json → Json
  | .null => .null
  | .bool b => .bool b
  | .number n => .number n
  | .string s => .string s
  | .array items => .array (canonicalItems items)
  | .object members => .object (canonicalMembers [] members)

def canonicalItems : List Json → List Json
  | [] => []
  | item :: rest => canonical item :: canonicalItems rest

def canonicalMembers (seen : List (String × Json)) :
    List (String × Json) → List (String × Json)
  | [] => seen
  | (key, value) :: rest => canonicalMembers (insertMember key (canonical value) seen) rest

end

mutual

/-- How deep arrays and objects are nested. -/
def depth : Json → Nat
  | .array items => depthItems items + 1
  | .object members => depthMembers members + 1
  | _ => 0

def depthItems : List Json → Nat
  | [] => 0
  | item :: rest => max (depth item) (depthItems rest)

def depthMembers : List (String × Json) → Nat
  | [] => 0
  | (_, value) :: rest => max (depth value) (depthMembers rest)

end

mutual

/-- Whether every number is within range. A literal too large to be a float is read as infinity,
which is no JSON number. -/
def inRange : Json → Bool
  | .number (.real x) => x.isFinite
  | .array items => inRangeItems items
  | .object members => inRangeMembers members
  | _ => true

def inRangeItems : List Json → Bool
  | [] => true
  | item :: rest => inRange item && inRangeItems rest

def inRangeMembers : List (String × Json) → Bool
  | [] => true
  | (_, value) :: rest => inRange value && inRangeMembers rest

end

/-- Whether a value can be kept: its numbers are within range and it is not nested too deep. -/
def canBeKept (depthLimit : Nat) (j : Json) : Bool := j.inRange && decide (j.depth ≤ depthLimit)

/-- The values of all members with this key. -/
def valuesOf (key : String) (members : List (String × Json)) : List Json :=
  members.filterMap fun (k, v) => if k = key then some v else none

/-- The member of this key: `none` when it is repeated, `some none` when it is missing. -/
def unique? (key : String) (members : List (String × Json)) : Option (Option Json) :=
  match valuesOf key members with
  | [] => some none
  | [v] => some (some v)
  | _ => none

/-- Whether all keys are among those named. -/
def onlyKeys (known : List String) (members : List (String × Json)) : Bool :=
  members.all fun (k, _) => known.contains k

/-- The member of this key, of several the last one. -/
def get? (key : String) : Json → Option Json
  | .object members => (valuesOf key members).getLast?
  | _ => none

def asString? : Json → Option String
  | .string s => some s
  | _ => none

def asBool? : Json → Option Bool
  | .bool b => some b
  | _ => none

def asInt? : Json → Option Int
  | .number (.whole i) => some i
  | _ => none

/-- A finite number as a float; whole numbers are rounded. -/
def asFloat? : Json → Option Binary64
  | .number (.whole i) => some (.ofInt i)
  | .number (.real x) => if x.isFinite then some x else none
  | _ => none

def asArray? : Json → Option (List Json)
  | .array items => some items
  | _ => none

/-- A whole number that is not negative. -/
def asNat? (j : Json) : Option Nat := j.asInt?.bind Int.toNat?

def int? (j : Json) (key : String) : Option Int := (j.get? key).bind asInt?

def nat? (j : Json) (key : String) : Option Nat := (j.get? key).bind asNat?

def string? (j : Json) (key : String) : Option String := (j.get? key).bind asString?

def bool? (j : Json) (key : String) : Option Bool := (j.get? key).bind asBool?

/-- A list of strings. -/
def asStrings? (j : Json) : Option (List String) := do
  (← j.asArray?).mapM asString?

end Json

end OutputArranger
