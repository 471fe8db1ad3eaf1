import OutputArranger.Toml.Value
import OutputArranger.Json.Token

/-!
# TOML scalars without quotes

Booleans, integers, floats, dates and times. Underscores may separate digits; only decimal numbers
have signs.
-/

namespace OutputArranger.Toml

/-- Digits in which single underscores stand between digits only, without the underscores. -/
def joinDigits (isDigit : Char → Bool) : List Char → Option (List Char)
  | [] => none
  | [c] => if isDigit c then some [c] else none
  | c :: '_' :: rest => if isDigit c then (joinDigits isDigit rest).map (c :: ·) else none
  | c :: rest => if isDigit c then (joinDigits isDigit rest).map (c :: ·) else none

/-- The value of digits in a base. -/
def valueOf (base : Nat) (cs : List Char) : Nat :=
  cs.foldl (fun n c => n * base + (Json.hexValue? c).getD 0) 0

/-- Splits off a sign. -/
def splitSign : List Char → Bool × List Char
  | '-' :: rest => (true, rest)
  | '+' :: rest => (false, rest)
  | cs => (false, cs)

def signed (negative : Bool) (n : Nat) : Int := if negative then -(n : Int) else n

/-- A decimal number without superfluous leading zeros. -/
def decimal? (cs : List Char) : Option (List Char) :=
  match joinDigits Char.isDigit cs with
  | some ('0' :: _ :: _) => none
  | other => other

/-- An integer in base ten, or in one of the other bases behind its mark. -/
def readInteger (cs : List Char) : Option Value :=
  let inBase (base : Nat) (isDigit : Char → Bool) (digits : List Char) : Option Value :=
    (joinDigits isDigit digits).map fun ds => .integer (valueOf base ds)
  match cs with
  | '0' :: 'x' :: digits => inBase 16 (fun c => (Json.hexValue? c).isSome) digits
  | '0' :: 'o' :: digits => inBase 8 (fun c => decide ('0' ≤ c ∧ c ≤ '7')) digits
  | '0' :: 'b' :: digits => inBase 2 (fun c => decide (c = '0' ∨ c = '1')) digits
  | cs =>
      let (negative, digits) := splitSign cs
      (decimal? digits).map fun ds => .integer (signed negative (valueOf 10 ds))

/-- Splits at the first character of a kind, which is dropped. -/
def splitAtFirst (p : Char → Bool) (cs : List Char) : List Char × Option (List Char) :=
  match cs.dropWhile (!p ·) with
  | [] => (cs, none)
  | _ :: rest => (cs.takeWhile (!p ·), some rest)

/-- A float has places, an exponent or both. One that is too large is refused. -/
def readFloat (cs : List Char) : Option Value := do
  let (negative, body) := splitSign cs
  match body with
  | ['i', 'n', 'f'] => some (.float (.infinity negative))
  | ['n', 'a', 'n'] => some (.float { Binary64.nan with negative })
  | _ =>
      let (mantissa, power) := splitAtFirst (fun c => c = 'e' || c = 'E') body
      let (whole, places) := splitAtFirst (· = '.') mantissa
      if power.isNone ∧ places.isNone then none
      let whole ← decimal? whole
      let places ← match places with
        | none => some []
        | some ds => joinDigits Char.isDigit ds
      let exponent ← match power with
        | none => some (0 : Int)
        | some p =>
            let (down, ds) := splitSign p
            (joinDigits Char.isDigit ds).map fun ds => signed down (valueOf 10 ds)
      let x := (Decimal.mk negative (valueOf 10 (whole ++ places))
        (exponent - places.length)).toBinary64
      if x.isFinite then some (.float x) else none

/-- A number of exactly `count` digits within bounds. -/
def readField (count low high : Nat) (cs : List Char) : Option (Nat × List Char) :=
  let digits := cs.take count
  let n := valueOf 10 digits
  if digits.length = count ∧ digits.all Char.isDigit ∧ low ≤ n ∧ n ≤ high then
    some (n, cs.drop count)
  else none

/-- One given character. -/
def expect (p : Char → Bool) : List Char → Option (List Char)
  | c :: rest => if p c then some rest else none
  | [] => none

def isLeap (year : Nat) : Bool := year % 4 = 0 && (year % 100 ≠ 0 || year % 400 = 0)

def daysIn (year month : Nat) : Nat :=
  if month = 2 then if isLeap year then 29 else 28
  else if month = 4 ∨ month = 6 ∨ month = 9 ∨ month = 11 then 30
  else 31

/-- A full date, with what follows it. -/
def readDate (cs : List Char) : Option (List Char) := do
  let (year, cs) ← readField 4 0 9999 cs
  let cs ← expect (· = '-') cs
  let (month, cs) ← readField 2 1 12 cs
  let cs ← expect (· = '-') cs
  let (_, cs) ← readField 2 1 (daysIn year month) cs
  some cs

/-- The seconds of a time and their fraction, both of which may be missing, and what follows. -/
def readSeconds (cs : List Char) : Option (List Char) :=
  match cs with
  | ':' :: rest => do
      let (_, rest) ← readField 2 0 60 rest
      match rest with
      | '.' :: places =>
          if (places.takeWhile Char.isDigit) = [] then none
          else some (places.dropWhile Char.isDigit)
      | rest => some rest
  | cs => some cs

/-- A time of day, with what follows it. -/
def readTime (cs : List Char) : Option (List Char) := do
  let (_, cs) ← readField 2 0 23 cs
  let cs ← expect (· = ':') cs
  let (_, cs) ← readField 2 0 59 cs
  readSeconds cs

/-- The offset of a time from universal time, nothing following it. -/
def readOffset (cs : List Char) : Option Unit :=
  match cs with
  | [] => some ()
  | ['Z'] => some ()
  | ['z'] => some ()
  | cs => do
      let cs ← expect (fun c => c = '+' || c = '-') cs
      let (_, cs) ← readField 2 0 23 cs
      let cs ← expect (· = ':') cs
      let (_, cs) ← readField 2 0 59 cs
      if cs = [] then some () else none

/-- A date, a time, or both with or without an offset. -/
def readMoment (cs : List Char) : Option Value :=
  match readDate cs with
  | some [] => some .moment
  | some rest => do
      let rest ← expect (fun c => c = 'T' || c = 't' || c = ' ') rest
      let rest ← readTime rest
      let _ ← readOffset rest
      some .moment
  | none => do
      let rest ← readTime cs
      if rest = [] then some .moment else none

/-- The value of a word without quotes. -/
def readScalar (cs : List Char) : Option Value :=
  if cs = ['t', 'r', 'u', 'e'] then some (.boolean true)
  else if cs = ['f', 'a', 'l', 's', 'e'] then some (.boolean false)
  else ((readInteger cs).orElse fun _ => readFloat cs).orElse fun _ => readMoment cs

end OutputArranger.Toml
