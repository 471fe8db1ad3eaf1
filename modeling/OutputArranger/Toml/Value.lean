import OutputArranger.Number.Decimal

/-!
# TOML values
-/

namespace OutputArranger.Toml

inductive Value where
  | string (text : String)
  | integer (value : Int)
  | float (value : Binary64)
  | boolean (value : Bool)
  /-- A date, a time or both. Which one is never asked. -/
  | moment
  | array (items : List Value)
  | table (entries : List (String × Value))

namespace Value

def asString? : Value → Option String
  | .string s => some s
  | _ => none

def asBool? : Value → Option Bool
  | .boolean b => some b
  | _ => none

/-- The least integer of 64 bits, with a sign. -/
def minInt64 : Int := -9223372036854775808

/-- The greatest integer of 64 bits, with a sign. -/
def maxInt64 : Int := 9223372036854775807

/-- The greatest integer of 64 bits, without a sign. -/
def maxNat64 : Int := 18446744073709551615

/-- A float, or an integer as a float. The integer has 64 bits, with or without a sign. -/
def asFloat? : Value → Option Binary64
  | .float x => some x
  | .integer i => if minInt64 ≤ i ∧ i ≤ maxNat64 then some (.ofInt i) else none
  | _ => none

def asArray? : Value → Option (List Value)
  | .array items => some items
  | _ => none

def asStrings? (v : Value) : Option (List String) := do
  (← v.asArray?).mapM asString?

/-- The name of a plain alternative: a string, or a table with one entry that is empty. -/
def asName? : Value → Option String
  | .string s => some s
  | .table [(key, .table [])] => some key
  | .table [(key, .array [])] => some key
  | _ => none

mutual

/-- Whether every integer has 64 bits. -/
def fits : Value → Bool
  | .integer i => decide (minInt64 ≤ i ∧ i ≤ maxInt64)
  | .array items => fitItems items
  | .table entries => fitEntries entries
  | _ => true

def fitItems : List Value → Bool
  | [] => true
  | v :: rest => fits v && fitItems rest

def fitEntries : List (String × Value) → Bool
  | [] => true
  | (_, v) :: rest => fits v && fitEntries rest

end

end Value

end OutputArranger.Toml
