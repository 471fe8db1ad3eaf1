import OutputArranger.Json.Token
import OutputArranger.Text.Utf8

/-!
# Reading JSON

The reader is a machine over tokens: it keeps the arrays and objects that are still open and
what it expects next. A document is one value and nothing after it. Whether its strings are texts is
left to those who need them.
-/

namespace OutputArranger.Json

/-- The members of an object so far, in reverse; none once a key was no text. -/
abbrev Members := Option (List (String × Json))

def Members.add (members : Members) (key : String) (value : Json) : Members :=
  members.map ((key, value) :: ·)

@[simp] theorem Members.add_some (members : List (String × Json)) (key : String) (value : Json) :
    Members.add (some members) key value = some ((key, value) :: members) := rfl

/-- The object of its members. -/
def Members.close : Members → Json
  | some members => .object members.reverse
  | none => .garbled

/-- An array or object that is still open; what it holds so far is in reverse. -/
inductive Frame where
  | array (items : List Json)
  | object (members : Members) (key : String)

/-- What the reader expects, inside the frames that are open, the innermost first. -/
inductive Reader where
  | value (frames : List Frame)
  | arrayStart (frames : List Frame)
  | objectStart (frames : List Frame)
  | key (members : Members) (frames : List Frame)
  | colon (members : Members) (key : String) (frames : List Frame)
  | after (value : Json) (frames : List Frame)

/-- Reads a token where a value has to begin. -/
def Reader.beginValue (frames : List Frame) : Token → Option Reader
  | .openBrace => some (.objectStart frames)
  | .openBracket => some (.arrayStart frames)
  | .null => some (.after .null frames)
  | .bool b => some (.after (.bool b) frames)
  | .number n => some (.after (.number n) frames)
  | .string s => some (.after (.string (String.ofList s)) frames)
  | .garbled => some (.after .garbled frames)
  | _ => none

/-- Reads one token. -/
def Reader.step : Reader → Token → Option Reader
  | .value frames, t => beginValue frames t
  | .arrayStart frames, t =>
      if t = .closeBracket then some (.after (.array []) frames)
      else beginValue (.array [] :: frames) t
  | .objectStart frames, .closeBrace => some (.after (.object []) frames)
  | .objectStart frames, .string s => some (.colon (some []) (String.ofList s) frames)
  | .key members frames, .string s => some (.colon members (String.ofList s) frames)
  | .objectStart frames, .garbled => some (.colon none "" frames)
  | .key _ frames, .garbled => some (.colon none "" frames)
  | .colon members k frames, .colon => some (.value (.object members k :: frames))
  | .after v (.array items :: frames), .comma => some (.value (.array (v :: items) :: frames))
  | .after v (.array items :: frames), .closeBracket =>
      some (.after (.array (v :: items).reverse) frames)
  | .after v (.object members k :: frames), .comma => some (.key (members.add k v) frames)
  | .after v (.object members k :: frames), .closeBrace =>
      some (.after (members.add k v).close frames)
  | _, _ => none

/-- Reads the tokens still to come. -/
def Reader.run (s : Reader) : List Token → Option Json
  | [] => match s with
    | .after v [] => some v
    | _ => none
  | t :: rest => match s.step t with
    | none => none
    | some next => next.run rest

/-- The value of a list of tokens. -/
def ofTokens (tokens : List Token) : Option Json := Reader.run (.value []) tokens

/-- The value of the characters of a JSON text. -/
def ofPieces (pieces : List (Option Char)) : Option Json := (tokenize pieces).bind ofTokens

/-- The value of a JSON text. -/
def parse (text : String) : Option Json := ofPieces (text.toList.map some)

/-- The value of the bytes of a JSON text. -/
def ofBytes (bytes : ByteArray) : Option Json := ofPieces (Utf8.pieces bytes.data.toList)

end OutputArranger.Json
