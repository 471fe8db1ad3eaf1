import OutputArranger.Unicode.Binary

/-!
# Parts of text

What a character does to the limits between graphemes, words and sentences. The values are given
by rules, and a character has the value of the first rule that holds of it.
-/

namespace OutputArranger.Unicode

open CodeSet (ofCategories ofCodes ofRanges range unions)

/-- Rules in order: the names of a value in loose form, and the characters that a rule holds of. -/
abbrev BreakRules := List (List String × CodeSet)

/-- The characters with a value, apart from those that are `taken` by earlier rules. -/
def BreakRules.membersFrom? (name : List Char) (taken : CodeSet) : BreakRules → Option CodeSet
  | [] => none
  | (names, s) :: rest =>
      if names.any (·.toList = name) then some (s.diff taken)
      else membersFrom? name (taken.union s) rest

def BreakRules.members? (rules : BreakRules) (name : List Char) : Option CodeSet :=
  rules.membersFrom? name .empty

def carriageReturn : List String × CodeSet := (["cr"], .single '\r')

def lineFeed : List String × CodeSet := (["lf"], .single '\n')

/-! ## Graphemes -/

def hangulSyllables : CodeSet := range 0xAC00 0xD7A3

/-- Syllables without a final consonant. -/
def openSyllables : CodeSet := ofCodes ((List.range 399).map fun i => 0xAC00 + 28 * i)

/-- Marks that take room but do not join the character before them. -/
def detachedMarks : CodeSet :=
  ofRanges
    [(0x102B, 0x102C), (0x1038, 0x1038), (0x1062, 0x1064), (0x1067, 0x106D), (0x1083, 0x1083),
     (0x1087, 0x108C), (0x108F, 0x108F), (0x109A, 0x109C), (0x1A61, 0x1A61), (0x1A63, 0x1A64),
     (0xAA7B, 0xAA7B), (0xAA7D, 0xAA7D), (0x11720, 0x11721)]

/-- Consonants that are written before the cluster they belong to. -/
def prefixedConsonants : CodeSet :=
  ofRanges
    [(0xD4E, 0xD4E), (0x111C2, 0x111C3), (0x113D1, 0x113D1), (0x1193F, 0x1193F),
     (0x11941, 0x11941), (0x11A3A, 0x11A3A), (0x11A84, 0x11A89), (0x11D46, 0x11D46),
     (0x11F02, 0x11F02)]

def graphemeBreaks : BreakRules :=
  [carriageReturn, lineFeed,
   (["zwj"], .single '\u200d'),
   (["l"], ofRanges [(0x1100, 0x115F), (0xA960, 0xA97C)]),
   (["v"],
     ofRanges [(0x1160, 0x11A7), (0xD7B0, 0xD7C6), (0x16D63, 0x16D63), (0x16D67, 0x16D6A)]),
   (["t"], ofRanges [(0x11A8, 0x11FF), (0xD7CB, 0xD7FB)]),
   (["lv"], openSyllables),
   (["lvt"], hangulSyllables),
   (["regionalindicator", "ri"], regionalIndicators),
   (["prepend", "pp"], prependedMarks.union prefixedConsonants),
   (["extend", "ex"], extenders.union emojiModifiers),
   (["spacingmark", "sm"],
     ((ofCategories ["Mc"]).diff detachedMarks).union (ofCodes [0xE33, 0xEB3])),
   (["control", "cn"],
     (ofCategories ["Zl", "Zp", "Cc", "Cf"]).union (ignorables.inter (ofCategories ["Cn"])))]

/-! ## Words -/

/-- Numbers of scripts whose names are known. -/
def scriptNamed (name : String) : CodeSet := .ofScript (scriptNames.idxOf name)

/-- Digits and what stands among them. Wide digits are not among them. -/
def numerals : CodeSet :=
  unions
    [(ofCategories ["Nd"]).diff (range 0xFF10 0xFF19), range 0x66B 0x66C,
     prependedMarks.diff (range 0x70F 0x70F)]

/-- Characters that extend the one before them, or are marks that take room. -/
def attached : CodeSet := extenders.union (ofCategories ["Mc"])

/-- Signs that count as letters within words. -/
def wordSigns : CodeSet :=
  ofRanges
    [(0xB8, 0xB8), (0x2C2, 0x2C5), (0x2D2, 0x2D7), (0x2DE, 0x2DF), (0x2E5, 0x2EB), (0x2ED, 0x2ED),
     (0x2EF, 0x2FF), (0x55A, 0x55C), (0x55E, 0x55E), (0x58A, 0x58A), (0x5F3, 0x5F3), (0x70F, 0x70F),
     (0xA708, 0xA716), (0xA720, 0xA721), (0xA789, 0xA78A), (0xAB5B, 0xAB5B)]

/-- Letters of which not all belong to one word that stand side by side. -/
def unseparated : CodeSet :=
  unions [⟨ideographBounds⟩, ⟨complexBounds⟩, scriptNamed "Hiragana"]

def wordBreaks : BreakRules :=
  [carriageReturn, lineFeed,
   (["regionalindicator", "ri"], regionalIndicators),
   (["zwj"], .single '\u200d'),
   (["singlequote", "sq"], .single '\''),
   (["doublequote", "dq"], .single '"'),
   (["wsegspace"],
     ofRanges
       [(0x20, 0x20), (0x1680, 0x1680), (0x2000, 0x2006), (0x2008, 0x200A), (0x205F, 0x205F),
        (0x3000, 0x3000)]),
   (["newline", "nl"], ofRanges [(0xB, 0xC), (0x85, 0x85), (0x2028, 0x2029)]),
   (["extendnumlet", "ex"], (ofCategories ["Pc"]).union (range 0x202F 0x202F)),
   (["midnumlet", "mb"], ofCodes [0x2E, 0x2018, 0x2019, 0x2024, 0xFE52, 0xFF07, 0xFF0E]),
   (["midletter", "ml"],
     ofCodes [0x3A, 0xB7, 0x387, 0x55F, 0x5F4, 0x2027, 0xFE13, 0xFE55, 0xFF1A]),
   (["midnum", "mn"],
     ofCodes
       [0x2C, 0x3B, 0x37E, 0x589, 0x60C, 0x60D, 0x66C, 0x7F8, 0x2044, 0xFE10, 0xFE14, 0xFE50,
        0xFE54, 0xFF0C, 0xFF1B]),
   (["numeric", "nu"], numerals.union (range 0xFF10 0xFF19)),
   (["extend"], attached.union emojiModifiers),
   (["format", "fo"], (ofCategories ["Cf"]).diff (ofCodes [0x70F, 0x200B])),
   (["katakana", "ka"],
     (scriptNamed "Katakana").union <| ofRanges
       [(0x3031, 0x3035), (0x309B, 0x309C), (0x30A0, 0x30A0), (0x30FC, 0x30FC), (0xFF70, 0xFF70)]),
   (["hebrewletter", "hl"], (scriptNamed "Hebrew").inter (ofCategories ["Lo"])),
   (["aletter", "le"], (alphabetics.union wordSigns).diff unseparated)]

/-! ## Sentences -/

/-- Georgian letters: the plain ones have large forms but are of neither case. -/
def plainGeorgian : CodeSet := ofRanges [(0x10D0, 0x10FA), (0x10FD, 0x10FF)]

def largeGeorgian : CodeSet := ofRanges [(0x1C90, 0x1CBA), (0x1CBD, 0x1CBF)]

/-- Quotation marks for the breaking of lines. -/
def lineQuotes : CodeSet :=
  ofRanges
    [(0x22, 0x22), (0x27, 0x27), (0xAB, 0xAB), (0xBB, 0xBB), (0x2018, 0x2019), (0x201B, 0x201D),
     (0x201F, 0x201F), (0x2039, 0x203A), (0x275B, 0x2760), (0x2E00, 0x2E0D), (0x2E1C, 0x2E1D),
     (0x2E20, 0x2E21), (0x1F676, 0x1F678)]

def sentenceBreaks : BreakRules :=
  [carriageReturn, lineFeed,
   (["sep", "se"], ofRanges [(0x85, 0x85), (0x2028, 0x2029)]),
   (["extend", "ex"], attached.union (.single '\u200d')),
   (["aterm", "at"], ofCodes [0x2E, 0x2024, 0xFE52, 0xFF0E]),
   (["sterm", "st"], ⟨sentenceTerminalBounds⟩),
   (["scontinue", "sc"],
     ofRanges
       [(0x2C, 0x2D), (0x3A, 0x3B), (0x37E, 0x37E), (0x55D, 0x55D), (0x60C, 0x60D), (0x7F8, 0x7F8),
        (0x1802, 0x1802), (0x1808, 0x1808), (0x2013, 0x2014), (0x3001, 0x3001), (0xFE10, 0xFE11),
        (0xFE13, 0xFE14), (0xFE31, 0xFE32), (0xFE50, 0xFE51), (0xFE54, 0xFE55), (0xFE58, 0xFE58),
        (0xFE63, 0xFE63), (0xFF0C, 0xFF0D), (0xFF1A, 0xFF1B), (0xFF64, 0xFF64)]),
   (["numeric", "nu"], numerals.union (range 0xFF10 0xFF19)),
   (["sp"], CodeSet.blanks),
   (["close", "cl"], (ofCategories ["Ps", "Pe"]).union lineQuotes),
   (["format", "fo"], ofCategories ["Cf"]),
   (["lower", "lo"], lowercases.diff plainGeorgian),
   (["upper", "up"], (uppercases.union (ofCategories ["Lt"])).diff largeGeorgian),
   (["oletter", "le"], alphabetics.union (range 0x5F3 0x5F3))]

end OutputArranger.Unicode
