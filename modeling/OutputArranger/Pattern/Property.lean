import OutputArranger.Pattern.Fault
import OutputArranger.Unicode.AgeTable
import OutputArranger.Unicode.ScriptUseTable
import OutputArranger.Unicode.Segmentation

/-!
# Properties of characters

Classes of characters have names: general categories, scripts and properties that are either true
or false, and values of some other properties. Names are compared loosely.
-/

namespace OutputArranger.Pattern

open Unicode

/-- What counts of a property name: its ASCII characters in lower case, without blanks, hyphens and
underscores. -/
def plainName (cs : List Char) : List Char :=
  (cs.filter fun c => c.toNat < 128 && c ≠ ' ' && c ≠ '-' && c ≠ '_').map Char.toLower

/-- A property name in loose form, which leaves out an "is" that it begins with. What remains of
the abbreviation "isc" would be taken for another one, and so it stays as it is. -/
def looseName (cs : List Char) : List Char :=
  if (cs.take 2).map Char.toLower = ['i', 's'] then
    let rest := plainName (cs.drop 2)
    if rest = ['c'] then ['i', 's', 'c'] else rest
  else plainName cs

/-- Whether a name in loose form is among those given. -/
def isAmong (names : List String) (name : List Char) : Bool := names.any (·.toList = name)

/-! ## Categories and scripts -/

/-- The names of the general categories and of groups of them, with the abbreviations of the
categories that they hold. -/
def categoryAliases : List (List String × List String) :=
  [(["cc", "control", "cntrl"], ["Cc"]), (["cf", "format"], ["Cf"]),
   (["cn", "unassigned"], ["Cn"]), (["co", "privateuse"], ["Co"]),
   (["c", "other"], ["Cc", "Cf", "Cn", "Co", "Cs"]),
   (["ll", "lowercaseletter"], ["Ll"]), (["lm", "modifierletter"], ["Lm"]),
   (["lo", "otherletter"], ["Lo"]), (["lt", "titlecaseletter"], ["Lt"]),
   (["lu", "uppercaseletter"], ["Lu"]), (["lc", "casedletter"], ["Lu", "Ll", "Lt"]),
   (["l", "letter"], ["Lu", "Ll", "Lt", "Lm", "Lo"]),
   (["mc", "spacingmark"], ["Mc"]), (["me", "enclosingmark"], ["Me"]),
   (["mn", "nonspacingmark"], ["Mn"]), (["m", "mark", "combiningmark"], ["Mc", "Me", "Mn"]),
   (["nd", "decimalnumber", "digit"], ["Nd"]), (["nl", "letternumber"], ["Nl"]),
   (["no", "othernumber"], ["No"]), (["n", "number"], ["Nd", "Nl", "No"]),
   (["pc", "connectorpunctuation"], ["Pc"]), (["pd", "dashpunctuation"], ["Pd"]),
   (["pe", "closepunctuation"], ["Pe"]), (["pf", "finalpunctuation"], ["Pf"]),
   (["pi", "initialpunctuation"], ["Pi"]), (["po", "otherpunctuation"], ["Po"]),
   (["ps", "openpunctuation"], ["Ps"]),
   (["p", "punctuation", "punct"], ["Pc", "Pd", "Pe", "Pf", "Pi", "Po", "Ps"]),
   (["sc", "currencysymbol"], ["Sc"]), (["sk", "modifiersymbol"], ["Sk"]),
   (["sm", "mathsymbol"], ["Sm"]), (["so", "othersymbol"], ["So"]),
   (["s", "symbol"], ["Sc", "Sk", "Sm", "So"]),
   (["zl", "lineseparator"], ["Zl"]), (["zp", "paragraphseparator"], ["Zp"]),
   (["zs", "spaceseparator"], ["Zs"]), (["z", "separator"], ["Zl", "Zp", "Zs"])]

/-- The characters of a general category or a group of them. Surrogates are no characters. -/
def category? (name : List Char) : Option (Except FaultKind CodeSet) :=
  match String.ofList name with
  | "any" => some (.ok .all)
  | "ascii" => some (.ok (.range 0 127))
  | "assigned" => some (.ok (CodeSet.ofCategories ["Cn"]).complement)
  | "cs" | "surrogate" => some (.error .valueUnknown)
  | _ =>
      (categoryAliases.find? fun (names, _) => isAmong names name).map fun (_, members) =>
        .ok (.ofCategories members)

/-- Codes of scripts besides the usual ones. -/
def scriptAliases : List (String × String) := [("Qaac", "Copt"), ("Qaai", "Zinh")]

/-- Scripts that no character has. -/
def emptyScripts : List String := ["unknown", "zzzz", "katakanaorhiragana", "hrkt"]

/-- The number of a script, given by its name or one of its codes. -/
def scriptNumber? (name : List Char) : Option Nat :=
  let named (n : String) : Bool := looseName n.toList = name
  match scriptNames.findIdx? named, scriptCodes.findIdx? named with
  | some number, _ => some number
  | none, some number => some number
  | none, none => (scriptAliases.find? fun a => named a.1).map fun a => scriptCodes.idxOf a.2

def script? (name : List Char) : Option (Except FaultKind Nat) :=
  if isAmong emptyScripts name then some (.error .valueUnknown)
  else (scriptNumber? name).map .ok

/-- The characters that are used with the script of a number, be it their own one or not. -/
def usedWith (number : Nat) : CodeSet :=
  let set (uses : List ScriptUse) := CodeSet.ofRanges (uses.map fun u => (u.first, u.last))
  let uses := scriptUses.toList
  let code := scriptCodes.getD number ""
  ((CodeSet.ofScript number).diff (set uses)).union
    (set (uses.filter fun u => (u.codes.splitOn " ").contains code))

/-! ## Properties -/

/-- The characters of a property that is either true or false. -/
def binarySet? (name : List Char) : Option CodeSet :=
  (binaryProperties.find? fun (names, _) => isAmong names name).map (·.2)

/-- Properties of which no value is known here, and those that are given by their values. -/
def otherProperties : List String :=
  ["age", "bidiclass", "bc", "bidimirrored", "bidim", "bidimirroringglyph", "bmg",
   "bidipairedbracket", "bpb", "bidipairedbrackettype", "bpt", "block", "blk",
   "canonicalcombiningclass", "ccc", "casefolding", "cf", "changeswhennfkccasefolded", "cwkcf",
   "cjkaccountingnumeric", "kaccountingnumeric", "cjkcompatibilityvariant",
   "kcompatibilityvariant", "cjkiicore", "kiicore", "cjkirggsource", "kirggsource",
   "cjkirghsource", "kirghsource", "cjkirgjsource", "kirgjsource", "cjkirgkpsource",
   "kirgkpsource", "cjkirgksource", "kirgksource", "cjkirgmsource", "kirgmsource",
   "cjkirgssource", "kirgssource", "cjkirgtsource", "kirgtsource", "cjkirguksource",
   "kirguksource", "cjkirgusource", "kirgusource", "cjkirgvsource", "kirgvsource",
   "cjkothernumeric", "kothernumeric", "cjkprimarynumeric", "kprimarynumeric", "cjkrsunicode",
   "krsunicode", "unicoderadicalstroke", "urs", "compositionexclusion", "ce",
   "decompositionmapping", "dm", "decompositiontype", "dt", "eastasianwidth", "ea",
   "equivalentunifiedideograph", "equideo", "expandsonnfc", "xonfc", "expandsonnfd", "xonfd",
   "expandsonnfkc", "xonfkc", "expandsonnfkd", "xonfkd", "fcnfkcclosure", "fcnfkc",
   "fullcompositionexclusion", "compex", "hangulsyllabletype", "hst", "indicconjunctbreak", "incb",
   "indicpositionalcategory", "inpc", "indicsyllabiccategory", "insc", "isocomment", "isc",
   "jamoshortname", "jsn", "joininggroup", "jg", "joiningtype", "jt", "kehcat", "kehdesc", "kehhg",
   "kehifao", "kehjsesh", "kehnomirror", "kehnorotate", "linebreak", "lb", "lowercasemapping",
   "lc", "name", "na", "namealias", "nfcquickcheck", "nfcqc", "nfdquickcheck", "nfdqc",
   "nfkccasefold", "nfkccf", "nfkcquickcheck", "nfkcqc", "nfkcsimplecasefold", "nfkcscf",
   "nfkdquickcheck", "nfkdqc", "numerictype", "nt", "numericvalue", "nv", "simplecasefolding",
   "scf", "sfc", "simplelowercasemapping", "slc", "simpletitlecasemapping", "stc",
   "simpleuppercasemapping", "suc", "titlecasemapping", "tc", "unicode1name", "na1",
   "uppercasemapping", "uc", "verticalorientation", "vo"]

/-- The characters of a property given by its bare name. Categories and scripts need no more than
the name of the value. -/
def propertySet (name : List Char) : Except FaultKind CodeSet :=
  let name := looseName name
  match (binarySet? name).map Except.ok, category? name, script? name with
  | some found, _, _ => found
  | none, some found, _ => found
  | none, none, some number => number.map .ofScript
  | none, none, none => .error .propertyUnknown

/-- The characters that were assigned in a version of the database or an earlier one. -/
def age? (name : List Char) : Option CodeSet :=
  let namesOf (major minor : Nat) : List String :=
    [toString major ++ "." ++ toString minor, "v" ++ toString major ++ toString minor]
  (versions.findIdx? fun (major, minor) => isAmong (namesOf major minor) name).map fun last =>
    .ofChanges ageChanges 32 (List.range (last + 1))

/-- A value that was looked up. -/
def valueOr {α : Type} (found : Option (Except FaultKind α)) : Except FaultKind α :=
  found.getD (.error .valueUnknown)

/-- The characters for which a named property has a named value. -/
def valueSet (property value : List Char) : Except FaultKind CodeSet :=
  let property := looseName property
  let value := looseName value
  match String.ofList property with
  | "gc" | "generalcategory" => valueOr (category? value)
  | "sc" | "script" => (valueOr (script? value)).map .ofScript
  | "scx" | "scriptextensions" => (valueOr (script? value)).map usedWith
  | "age" => valueOr ((age? value).map .ok)
  | "gcb" | "graphemeclusterbreak" => valueOr ((graphemeBreaks.members? value).map .ok)
  | "wb" | "wordbreak" => valueOr ((wordBreaks.members? value).map .ok)
  | "sb" | "sentencebreak" => valueOr ((sentenceBreaks.members? value).map .ok)
  | _ =>
      if (binarySet? property).isSome || isAmong otherProperties property then .error .valueUnknown
      else .error .propertyUnknown

/-- Splits a list of characters at the first place where `mark` stands. -/
def splitAt? (mark : List Char) : List Char → Option (List Char × List Char)
  | [] => none
  | c :: rest =>
      if mark.isPrefixOf (c :: rest) then some ([], (c :: rest).drop mark.length)
      else (splitAt? mark rest).map fun (before, after) => (c :: before, after)

/-- The characters of a class written between braces after `\p`. -/
def bracedProperty (name : List Char) : Except FaultKind CodeSet :=
  match splitAt? ['!', '='] name with
  | some (property, value) => (valueSet property value).map CodeSet.complement
  | none =>
      match (splitAt? [':'] name).orElse fun _ => splitAt? ['='] name with
      | some (property, value) => valueSet property value
      | none => propertySet name

end OutputArranger.Pattern
