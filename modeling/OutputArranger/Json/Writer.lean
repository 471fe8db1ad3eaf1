import OutputArranger.Json.Token

/-!
# Writing JSON

Two forms: without any blanks, and indented by two spaces a level.
-/

namespace OutputArranger.Json

mutual

/-- The tokens of a value. -/
def tokens : Json → List Token
  | .null => [.null]
  | .bool b => [.bool b]
  | .number n => [.number n]
  | .string s => [.string s.toList]
  | .array items => .openBracket :: tokensOfItems items
  | .object members => .openBrace :: tokensOfMembers members

/-- The items of an array and the bracket that closes it. -/
def tokensOfItems : List Json → List Token
  | [] => [.closeBracket]
  | item :: rest => tokens item ++ tokensOfMoreItems rest

def tokensOfMoreItems : List Json → List Token
  | [] => [.closeBracket]
  | item :: rest => .comma :: (tokens item ++ tokensOfMoreItems rest)

/-- The members of an object and the brace that closes it. -/
def tokensOfMembers : List (String × Json) → List Token
  | [] => [.closeBrace]
  | (key, value) :: rest =>
      .string key.toList :: .colon :: (tokens value ++ tokensOfMoreMembers rest)

def tokensOfMoreMembers : List (String × Json) → List Token
  | [] => [.closeBrace]
  | (key, value) :: rest =>
      .comma :: .string key.toList :: .colon :: (tokens value ++ tokensOfMoreMembers rest)

end

/-- The characters of a value written without blanks. -/
def compactChars (j : Json) : List Char := j.tokens.flatMap Token.text

/-- A value written without blanks. -/
def compact (j : Json) : String := String.ofList j.compactChars

/-- A line break and the indentation of a level. -/
def newline (level : Nat) : List Char := '\n' :: List.replicate (2 * level) ' '

mutual

def prettyChars (level : Nat) : Json → List Char
  | .null => Token.null.text
  | .bool b => (Token.bool b).text
  | .number n => n.text
  | .string s => (Token.string s.toList).text
  | .array [] => ['[', ']']
  | .array (item :: rest) =>
      '[' :: (newline (level + 1) ++ prettyChars (level + 1) item ++ prettyItems (level + 1) rest ++
        newline level ++ [']'])
  | .object [] => ['\x7b', '\x7d']
  | .object ((key, value) :: rest) =>
      '\x7b' :: (newline (level + 1) ++ (Token.string key.toList).text ++ [':', ' '] ++
        prettyChars (level + 1) value ++ prettyMembers (level + 1) rest ++ newline level ++
          ['\x7d'])

def prettyItems (level : Nat) : List Json → List Char
  | [] => []
  | item :: rest => ',' :: (newline level ++ prettyChars level item ++ prettyItems level rest)

def prettyMembers (level : Nat) : List (String × Json) → List Char
  | [] => []
  | (key, value) :: rest =>
      ',' :: (newline level ++ (Token.string key.toList).text ++ [':', ' '] ++
        prettyChars level value ++ prettyMembers level rest)

end

/-- A value with each item and member on a line of its own. -/
def pretty (j : Json) : String := String.ofList (j.prettyChars 0)

end OutputArranger.Json
