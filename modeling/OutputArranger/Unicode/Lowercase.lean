import OutputArranger.Unicode.CodeSet

/-!
# Lower case of text

Every character maps by itself, save two: a capital I with a dot becomes two characters, and a
capital sigma becomes a final sigma at the end of a word.
-/

namespace OutputArranger.Unicode

def isCased (c : Char) : Bool := insideBounds casedBounds c.toNat

def isCaseIgnorable (c : Char) : Bool := insideBounds caseIgnorableBounds c.toNat

/-- Whether the first character that counts for case has one. -/
def startsCased (cs : List Char) : Bool :=
  match cs.dropWhile isCaseIgnorable with
  | [] => false
  | c :: _ => isCased c

/-- The lower case of one character, where its surroundings do not matter. -/
def lowerChar (c : Char) : List Char :=
  if c.toNat < 128 then [c.toLower]
  else if c = 'İ' then ['i', '\u0307']
  else [Char.ofNat (CaseRun.map lowercaseRuns c.toNat)]

/-- Lower case, given the characters already passed, the last one first. -/
def lowerFrom : List Char → List Char → List Char
  | _, [] => []
  | before, c :: rest =>
      (if c = 'Σ' then
        if startsCased before && !startsCased rest then ['ς'] else ['σ']
      else lowerChar c) ++ lowerFrom (c :: before) rest

/-- A text in lower case. -/
def lowercase (cs : List Char) : List Char := lowerFrom [] cs

/-- Text without white space at either end. -/
def trim (cs : List Char) : List Char :=
  ((cs.dropWhile isBlank).reverse.dropWhile isBlank).reverse

end OutputArranger.Unicode
