import Telemetry.Unicode.Character
import Telemetry.Unicode.Script

/-!
# Properties by name

Names of properties and of their values are compared without regard to case, spaces, hyphens and
underscores, and without a leading `is`.

The ages of characters and the classes of text segmentation are not tabled. An expression that asks
for one of them, such as `\p{Age:6.0}`, `\p{gcb=Extend}`, `\p{wb=Katakana}` or `\p{sb=ATerm}`, is
refused here as if there were no such property, while the engine that is modelled knows them.

* `looseName`: the form in which names are compared.
* `propertySet`: the set that a single name stands for: a yes-or-no property, a general category or
  a script.
* `propertyValueSet`: the set that a property and one of its values stand for.
-/

namespace Telemetry.Unicode

/-! ## Loose names -/

/-- Drops separators and everything beyond ASCII, and takes letters to lower case. -/
def squeezed (name : List Char) : List Char :=
  (name.filter fun c => c.toNat < 0x80 && !(c == ' ' || c == '_' || c == '-')).map Char.toLower

def looseName (name : List Char) : String :=
  match name with
  | i :: s :: rest =>
    if i.toLower == 'i' && s.toLower == 's' then
      match squeezed rest with
      | ['c'] => "isc"
      | short => String.ofList short
    else String.ofList (squeezed name)
  | _ => String.ofList (squeezed name)

/-! ## General categories -/

/-- The general categories and their unions: the names of each and the short names of its parts. -/
def categoryGroups : List (List String × List String) := [
  (["lu", "uppercaseletter"], ["Lu"]),
  (["ll", "lowercaseletter"], ["Ll"]),
  (["lt", "titlecaseletter"], ["Lt"]),
  (["lc", "casedletter"], ["Lu", "Ll", "Lt"]),
  (["lm", "modifierletter"], ["Lm"]),
  (["lo", "otherletter"], ["Lo"]),
  (["l", "letter"], ["Lu", "Ll", "Lt", "Lm", "Lo"]),
  (["mn", "nonspacingmark"], ["Mn"]),
  (["mc", "spacingmark"], ["Mc"]),
  (["me", "enclosingmark"], ["Me"]),
  (["m", "mark", "combiningmark"], ["Mn", "Mc", "Me"]),
  (["nd", "decimalnumber", "digit"], ["Nd"]),
  (["nl", "letternumber"], ["Nl"]),
  (["no", "othernumber"], ["No"]),
  (["n", "number"], ["Nd", "Nl", "No"]),
  (["pc", "connectorpunctuation"], ["Pc"]),
  (["pd", "dashpunctuation"], ["Pd"]),
  (["ps", "openpunctuation"], ["Ps"]),
  (["pe", "closepunctuation"], ["Pe"]),
  (["pi", "initialpunctuation"], ["Pi"]),
  (["pf", "finalpunctuation"], ["Pf"]),
  (["po", "otherpunctuation"], ["Po"]),
  (["p", "punctuation", "punct"], ["Pc", "Pd", "Ps", "Pe", "Pi", "Pf", "Po"]),
  (["sm", "mathsymbol"], ["Sm"]),
  (["sc", "currencysymbol"], ["Sc"]),
  (["sk", "modifiersymbol"], ["Sk"]),
  (["so", "othersymbol"], ["So"]),
  (["s", "symbol"], ["Sm", "Sc", "Sk", "So"]),
  (["zs", "spaceseparator"], ["Zs"]),
  (["zl", "lineseparator"], ["Zl"]),
  (["zp", "paragraphseparator"], ["Zp"]),
  (["z", "separator"], ["Zs", "Zl", "Zp"]),
  (["cc", "control", "cntrl"], ["Cc"]),
  (["cf", "format"], ["Cf"]),
  (["co", "privateuse"], ["Co"])]

def categorySet (name : String) : Option CodeSet :=
  match name with
  | "any" => some (.compl .empty)
  | "ascii" => some (.range 0 0x7F)
  | "assigned" => some assigned
  | "cn" | "unassigned" => some (.compl assigned)
  | "c" | "other" => some (.union (categories ["Cc", "Cf", "Co"]) (.compl assigned))
  | _ => (categoryGroups.find? (·.1.contains name)).map fun group => categories group.2

/-! ## Scripts -/

def scriptSet (name : String) : Option CodeSet :=
  (scriptRuns.find? (·.1.contains name)).map fun entry => .runs entry.2

/-- The code points used with a script: its own, corrected by those with scripts of their own list. -/
def scriptExtensionSet (name : String) : Option CodeSet :=
  (scriptRuns.find? (·.1.contains name)).map fun entry =>
    let exceptions := CodeSet.unions (scriptExtensionRuns.map fun e => .runs e.2)
    let users := scriptExtensionRuns.filter fun e => e.1.any entry.1.contains
    .union (.diff (.runs entry.2) exceptions) (.unions (users.map fun e => .runs e.2))

/-! ## Yes-or-no properties -/

def patternSyntaxOrSpace : CodeSet := .union (.runs patternSyntaxRuns) (.runs patternWhiteSpaceRuns)

def idStart : CodeSet :=
  .diff (.unions [letters, categories ["Nl"], .runs otherIdStartRuns]) patternSyntaxOrSpace

def idContinue : CodeSet :=
  .diff (.unions [idStart, categories ["Mn", "Mc", "Nd", "Pc"], .runs otherIdContinueRuns])
    patternSyntaxOrSpace

def changesWhenCasemapped : CodeSet :=
  .unions [.runs changesWhenLowercasedRuns, .runs changesWhenUppercasedRuns,
    .runs changesWhenTitlecasedRuns]

def graphemeBase : CodeSet :=
  .diff assigned (.union (categories ["Cc", "Cf", "Co", "Zl", "Zp"]) (.runs graphemeExtendRuns))

def binaryProperties : List (List String × CodeSet) := [
  (["asciihexdigit", "ahex"], .runs asciiHexDigitRuns),
  (["alphabetic", "alpha"], alphabetic),
  (["bidicontrol", "bidic"], .runs bidiControlRuns),
  (["bidimirrored", "bidim"], .runs bidiMirroredRuns),
  (["caseignorable", "ci"], .runs caseIgnorableRuns),
  (["cased"], .unions [lowercase, uppercase, categories ["Lt"]]),
  (["changeswhencasefolded", "cwcf"], .runs changesWhenCasefoldedRuns),
  (["changeswhencasemapped", "cwcm"], changesWhenCasemapped),
  (["changeswhenlowercased", "cwl"], .runs changesWhenLowercasedRuns),
  (["changeswhentitlecased", "cwt"], .runs changesWhenTitlecasedRuns),
  (["changeswhenuppercased", "cwu"], .runs changesWhenUppercasedRuns),
  (["dash"], .runs dashRuns),
  (["defaultignorablecodepoint", "di"], .runs defaultIgnorableCodePointRuns),
  (["deprecated", "dep"], .runs deprecatedRuns),
  (["diacritic", "dia"], .runs diacriticRuns),
  (["emoji"], .runs emojiRuns),
  (["emojicomponent", "ecomp"], .runs emojiComponentRuns),
  (["emojimodifier", "emod"], .runs emojiModifierRuns),
  (["emojimodifierbase", "ebase"], .runs emojiModifierBaseRuns),
  (["emojipresentation", "epres"], .runs emojiPresentationRuns),
  (["extendedpictographic", "extpict"], .runs extendedPictographicRuns),
  (["extender", "ext"], .runs extenderRuns),
  (["graphemebase", "grbase"], graphemeBase),
  (["graphemeextend", "grext"], .runs graphemeExtendRuns),
  (["graphemelink", "grlink"], .runs graphemeLinkRuns),
  (["hexdigit", "hex"], .runs hexDigitRuns),
  (["hyphen"], .runs hyphenRuns),
  (["idsbinaryoperator", "idsb"], .runs idsBinaryOperatorRuns),
  (["idstrinaryoperator", "idst"], .runs idsTrinaryOperatorRuns),
  (["idcontinue", "idc"], idContinue),
  (["idstart", "ids"], idStart),
  (["ideographic", "ideo"], .runs ideographicRuns),
  (["joincontrol", "joinc"], .runs joinControlRuns),
  (["logicalorderexception", "loe"], .runs logicalOrderExceptionRuns),
  (["lowercase", "lower"], lowercase),
  (["math"], .union (categories ["Sm"]) (.runs otherMathRuns)),
  (["noncharactercodepoint", "nchar"], .runs noncharacterCodePointRuns),
  (["patternsyntax", "patsyn"], .runs patternSyntaxRuns),
  (["patternwhitespace", "patws"], .runs patternWhiteSpaceRuns),
  (["prependedconcatenationmark", "pcm"], .runs prependedConcatenationMarkRuns),
  (["quotationmark", "qmark"], .runs quotationMarkRuns),
  (["radical"], .runs radicalRuns),
  (["regionalindicator", "ri"], .runs regionalIndicatorRuns),
  (["sentenceterminal", "sterm"], .runs sentenceTerminalRuns),
  (["softdotted", "sd"], .runs softDottedRuns),
  (["terminalpunctuation", "term"], .runs terminalPunctuationRuns),
  (["unifiedideograph", "uideo"], .runs unifiedIdeographRuns),
  (["uppercase", "upper"], uppercase),
  (["variationselector", "vs"], .runs variationSelectorRuns),
  (["whitespace", "wspace", "space"], blanks),
  (["xidcontinue", "xidc"], .diff idContinue (.runs xidContinueExcludedRuns)),
  (["xidstart", "xids"], .diff idStart (.runs xidStartExcludedRuns))]

/-! ## Lookup -/

/-- Looks a name up among the yes-or-no properties, then the general categories, then the scripts. -/
def propertySet (name : List Char) : Option CodeSet :=
  let loose := looseName name
  ((binaryProperties.find? (·.1.contains loose)).map (·.2)).or
    ((categorySet loose).or (scriptSet loose))

/-- Looks a value up among those of a property that has more than two. Of these properties only the
general category, the script and the script extensions are known; ages and the breaks of graphemes,
words and sentences are missing. -/
def propertyValueSet (name value : List Char) : Option CodeSet :=
  match looseName name with
  | "gc" | "generalcategory" => categorySet (looseName value)
  | "sc" | "script" => scriptSet (looseName value)
  | "scx" | "scriptextensions" => scriptExtensionSet (looseName value)
  | _ => none

end Telemetry.Unicode
