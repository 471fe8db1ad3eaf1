import OutputArranger.Unicode.CodeSet
import OutputArranger.Unicode.FurtherTable

/-!
# Properties that are true or false

A property is the set of the characters that have it. A property that the standard derives from
others is derived from them here as well.
-/

namespace OutputArranger.Unicode

open CodeSet (ofCategories ofCodes ofRanges range unions)

/-! ## Letters and case -/

def letters : CodeSet := ofCategories ["Lu", "Ll", "Lt", "Lm", "Lo"]

def alphabetics : CodeSet := ⟨alphabeticBounds⟩

def lowercases : CodeSet := ⟨lowercaseBounds⟩

def uppercases : CodeSet := ⟨uppercaseBounds⟩

/-- Letters of two characters whose first one alone is large. -/
def digraphs : CodeSet := ofCodes [0x1C5, 0x1C8, 0x1CB, 0x1F2]

/-- Characters that change in lower case. -/
def changedByLowercase : CodeSet :=
  ofCodes (0x130 :: (lowercaseRuns.toList.flatMap CodeSet.pairsOf).map (·.1))

/-- Characters that change in upper case. -/
def changedByUppercase : CodeSet := ⟨uppercasingBounds⟩

/-- Letters that have a large form but are small at the beginning of a word as well, or that are in
title case already. -/
def titledAlready : CodeSet :=
  digraphs.union <| ofRanges
    [(0x10D0, 0x10FA), (0x10FD, 0x10FF), (0x1F88, 0x1F8F), (0x1F98, 0x1F9F), (0x1FA8, 0x1FAF),
     (0x1FBC, 0x1FBC), (0x1FCC, 0x1FCC), (0x1FFC, 0x1FFC)]

/-- Characters that change in title case. -/
def changedByTitlecase : CodeSet :=
  (changedByUppercase.diff titledAlready).union (ofCodes [0x1C4, 0x1C7, 0x1CA, 0x1F1])

/-- Characters that fold to several others. -/
def foldedToSeveral : CodeSet :=
  ofRanges
    [(0xDF, 0xDF), (0x130, 0x130), (0x149, 0x149), (0x587, 0x587), (0x1E9A, 0x1E9A),
     (0x1F80, 0x1F87), (0x1F90, 0x1F97), (0x1FA0, 0x1FA7), (0x1FB2, 0x1FB4), (0x1FB7, 0x1FB7),
     (0x1FC2, 0x1FC4), (0x1FC7, 0x1FC7), (0x1FF2, 0x1FF4), (0x1FF7, 0x1FF7), (0xFB00, 0xFB04),
     (0xFB06, 0xFB06), (0xFB13, 0xFB17)]

/-- Characters that change under case folding. Those that decompose into what they fold to do not
count. -/
def changedByFolding : CodeSet :=
  ((ofCodes (CodeSet.foldingPairs.map (·.1))).union foldedToSeveral).diff
    (ofCodes [0x1FBE, 0x1FD3, 0x1FE3])

/-! ## Identifiers -/

def otherIdentifierStarts : CodeSet :=
  ofRanges [(0x1885, 0x1886), (0x2118, 0x2118), (0x212E, 0x212E), (0x309B, 0x309C)]

def otherIdentifierParts : CodeSet :=
  ofRanges
    [(0xB7, 0xB7), (0x387, 0x387), (0x1369, 0x1371), (0x19DA, 0x19DA), (0x200C, 0x200D),
     (0x30FB, 0x30FB), (0xFF65, 0xFF65)]

def patternSyntax : CodeSet := ⟨patternSyntaxBounds⟩

def patternBlanks : CodeSet :=
  ofRanges
    [(0x9, 0xD), (0x20, 0x20), (0x85, 0x85), (0x200E, 0x200F), (0x2028, 0x2029)]

def identifierStarts : CodeSet :=
  (unions [letters, ofCategories ["Nl"], otherIdentifierStarts]).diff
    (patternSyntax.union patternBlanks)

def identifierParts : CodeSet :=
  (unions [identifierStarts, ofCategories ["Mn", "Mc", "Nd", "Pc"], otherIdentifierParts]).diff
    (patternSyntax.union patternBlanks)

/-- Characters whose compatibility forms are no identifiers. -/
def unstable : CodeSet :=
  ofRanges
    [(0x37A, 0x37A), (0x309B, 0x309C), (0xFC5E, 0xFC63), (0xFDFA, 0xFDFB), (0xFE70, 0xFE70),
     (0xFE72, 0xFE72), (0xFE74, 0xFE74), (0xFE76, 0xFE76), (0xFE78, 0xFE78), (0xFE7A, 0xFE7A),
     (0xFE7C, 0xFE7C), (0xFE7E, 0xFE7E)]

/-- Characters whose compatibility forms cannot begin an identifier. -/
def unstableStarts : CodeSet :=
  unstable.union (ofRanges [(0xE33, 0xE33), (0xEB3, 0xEB3), (0xFF9E, 0xFF9F)])

/-! ## Marks and signs -/

def extenders : CodeSet := ⟨extendingBounds⟩

def joinControls : CodeSet := range 0x200C 0x200D

def regionalIndicators : CodeSet := range 0x1F1E6 0x1F1FF

def emojiModifiers : CodeSet := range 0x1F3FB 0x1F3FF

def prependedMarks : CodeSet :=
  ofRanges
    [(0x600, 0x605), (0x6DD, 0x6DD), (0x70F, 0x70F), (0x890, 0x891), (0x8E2, 0x8E2),
     (0x110BD, 0x110BD), (0x110CD, 0x110CD)]

def variationSelectors : CodeSet :=
  ofRanges [(0x180B, 0x180D), (0x180F, 0x180F), (0xFE00, 0xFE0F), (0xE0100, 0xE01EF)]

def otherIgnorables : CodeSet :=
  ofRanges
    [(0x34F, 0x34F), (0x115F, 0x1160), (0x17B4, 0x17B5), (0x2065, 0x2065), (0x3164, 0x3164),
     (0xFFA0, 0xFFA0), (0xFFF0, 0xFFF8), (0xE0000, 0xE0000), (0xE0002, 0xE001F),
     (0xE0080, 0xE00FF), (0xE01F0, 0xE0FFF)]

/-- Characters that leave no trace where they cannot be shown. -/
def ignorables : CodeSet :=
  (unions [otherIgnorables, ofCategories ["Cf"], variationSelectors]).diff
    (unions [CodeSet.blanks, prependedMarks, ofRanges [(0xFFF9, 0xFFFB), (0x13430, 0x1343F)]])

/-- Characters that stand for themselves in a text. -/
def graphemeBases : CodeSet :=
  ((ofCategories ["Cc", "Cf", "Cs", "Co", "Cn", "Zl", "Zp"]).union extenders).complement

def noncharacters : CodeSet :=
  (range 0xFDD0 0xFDEF).union <| ofCodes <|
    (List.range 17).flatMap fun plane => [plane * 0x10000 + 0xFFFE, plane * 0x10000 + 0xFFFF]

def asciiHexDigits : CodeSet := ofRanges [(0x30, 0x39), (0x41, 0x46), (0x61, 0x66)]

def mathOperands : CodeSet :=
  ofCodes
    [0x2202, 0x2207, 0x221E, 0x1D6C1, 0x1D6DB, 0x1D6FB, 0x1D715, 0x1D735, 0x1D74F, 0x1D76F,
     0x1D789, 0x1D7A9, 0x1D7C3]

/-! ## Names -/

/-- The properties with their names in loose form. -/
def binaryProperties : List (List String × CodeSet) :=
  [(["asciihexdigit", "ahex"], asciiHexDigits),
   (["alphabetic", "alpha"], alphabetics),
   (["bidicontrol", "bidic"],
     ofRanges [(0x61C, 0x61C), (0x200E, 0x200F), (0x202A, 0x202E), (0x2066, 0x2069)]),
   (["caseignorable", "ci"], ⟨caseIgnorableBounds⟩),
   (["cased"], ⟨casedBounds⟩),
   (["changeswhencasefolded", "cwcf"], changedByFolding),
   (["changeswhencasemapped", "cwcm"],
     unions [changedByLowercase, changedByUppercase, changedByTitlecase]),
   (["changeswhenlowercased", "cwl"], changedByLowercase),
   (["changeswhentitlecased", "cwt"], changedByTitlecase),
   (["changeswhenuppercased", "cwu"], changedByUppercase),
   (["dash"], ⟨dashBounds⟩),
   (["defaultignorablecodepoint", "di"], ignorables),
   (["deprecated", "dep"],
     ofRanges
       [(0x149, 0x149), (0x673, 0x673), (0xF77, 0xF77), (0xF79, 0xF79), (0x17A3, 0x17A4),
        (0x206A, 0x206F), (0x2329, 0x232A), (0xE0001, 0xE0001)]),
   (["diacritic", "dia"], ⟨diacriticBounds⟩),
   (["emoji"], ⟨emojiBounds⟩),
   (["emojicomponent", "ecomp"],
     unions
       [ofRanges [(0x23, 0x23), (0x2A, 0x2A), (0x30, 0x39), (0x200D, 0x200D), (0x20E3, 0x20E3),
          (0xFE0F, 0xFE0F), (0x1F9B0, 0x1F9B3), (0xE0020, 0xE007F)],
        regionalIndicators, emojiModifiers]),
   (["emojimodifier", "emod"], emojiModifiers),
   (["emojimodifierbase", "ebase"], ⟨emojiBaseBounds⟩),
   (["emojipresentation", "epres"], ⟨emojiShownBounds⟩),
   (["extendedpictographic", "extpict"], ⟨pictographBounds⟩),
   (["extender", "ext"], ⟨extenderBounds⟩),
   (["graphemebase", "grbase"], graphemeBases),
   (["graphemeextend", "grext"], extenders),
   (["graphemelink", "grlink"], ⟨graphemeLinkBounds⟩),
   (["hexdigit", "hex"],
     asciiHexDigits.union (ofRanges [(0xFF10, 0xFF19), (0xFF21, 0xFF26), (0xFF41, 0xFF46)])),
   (["hyphen"],
     ofRanges
       [(0x2D, 0x2D), (0xAD, 0xAD), (0x58A, 0x58A), (0x1806, 0x1806), (0x2010, 0x2011),
        (0x2E17, 0x2E17), (0x30FB, 0x30FB), (0xFE63, 0xFE63), (0xFF0D, 0xFF0D), (0xFF65, 0xFF65)]),
   (["idcompatmathcontinue"],
     mathOperands.union (ofRanges
       [(0xB2, 0xB3), (0xB9, 0xB9), (0x2070, 0x2070), (0x2074, 0x207E), (0x2080, 0x208E)])),
   (["idcompatmathstart"], mathOperands),
   (["idcontinue", "idc"], identifierParts),
   (["idstart", "ids"], identifierStarts),
   (["idsbinaryoperator", "idsb"],
     ofRanges [(0x2FF0, 0x2FF1), (0x2FF4, 0x2FFD), (0x31EF, 0x31EF)]),
   (["idstrinaryoperator", "idst"], range 0x2FF2 0x2FF3),
   (["idsunaryoperator", "idsu"], range 0x2FFE 0x2FFF),
   (["ideographic", "ideo"], ⟨ideographBounds⟩),
   (["joincontrol", "joinc"], joinControls),
   (["logicalorderexception", "loe"],
     ofRanges
       [(0xE40, 0xE44), (0xEC0, 0xEC4), (0x19B5, 0x19B7), (0x19BA, 0x19BA), (0xAAB5, 0xAAB6),
        (0xAAB9, 0xAAB9), (0xAABB, 0xAABC)]),
   (["lowercase", "lower"], lowercases),
   (["math"], ⟨mathBounds⟩),
   (["modifiercombiningmark", "mcm"],
     ofRanges
       [(0x654, 0x655), (0x658, 0x658), (0x6DC, 0x6DC), (0x6E3, 0x6E3), (0x6E7, 0x6E8),
        (0x8CA, 0x8CB), (0x8CD, 0x8CF), (0x8D3, 0x8D3), (0x8F3, 0x8F3)]),
   (["noncharactercodepoint", "nchar"], noncharacters),
   (["otheralphabetic", "oalpha"], alphabetics.diff (letters.union (ofCategories ["Nl"]))),
   (["otherdefaultignorablecodepoint", "odi"], otherIgnorables),
   (["othergraphemeextend", "ogrext"], extenders.diff (ofCategories ["Me", "Mn"])),
   (["otheridcontinue", "oidc"], otherIdentifierParts),
   (["otheridstart", "oids"], otherIdentifierStarts),
   (["otherlowercase", "olower"], lowercases.diff (ofCategories ["Ll"])),
   (["othermath", "omath"], CodeSet.diff ⟨mathBounds⟩ (ofCategories ["Sm"])),
   (["otheruppercase", "oupper"], uppercases.diff (ofCategories ["Lu"])),
   (["patternsyntax", "patsyn"], patternSyntax),
   (["patternwhitespace", "patws"], patternBlanks),
   (["prependedconcatenationmark", "pcm"], prependedMarks),
   (["quotationmark", "qmark"],
     ofRanges
       [(0x22, 0x22), (0x27, 0x27), (0xAB, 0xAB), (0xBB, 0xBB), (0x2018, 0x201F), (0x2039, 0x203A),
        (0x2E42, 0x2E42), (0x300C, 0x300F), (0x301D, 0x301F), (0xFE41, 0xFE44), (0xFF02, 0xFF02),
        (0xFF07, 0xFF07), (0xFF62, 0xFF63)]),
   (["radical"], ofRanges [(0x2E80, 0x2E99), (0x2E9B, 0x2EF3), (0x2F00, 0x2FD5)]),
   (["regionalindicator", "ri"], regionalIndicators),
   (["sentenceterminal", "sterm"], ⟨sentenceTerminalBounds⟩),
   (["softdotted", "sd"], ⟨softDottedBounds⟩),
   (["terminalpunctuation", "term"], ⟨terminalBounds⟩),
   (["unifiedideograph", "uideo"], ⟨unifiedIdeographBounds⟩),
   (["uppercase", "upper"], uppercases),
   (["variationselector", "vs"], variationSelectors),
   (["whitespace", "wspace", "space"], CodeSet.blanks),
   (["xidcontinue", "xidc"], identifierParts.diff unstable),
   (["xidstart", "xids"], identifierStarts.diff unstableStarts)]

end OutputArranger.Unicode
