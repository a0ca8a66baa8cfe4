import MeterUplink.Pattern.CharSet
import MeterUplink.Pattern.Fault
import MeterUplink.Pattern.Written
import MeterUplink.Text.Blank
import MeterUplink.Text.ScriptData

namespace MeterUplink.Pattern

/-! The properties of characters that a pattern can name: general categories, scripts and a few
properties that hold or do not. Names may be written in any case, and blanks, dashes and low lines
in them do not count, nor does the word "is" at the front. -/

/-- The letters and signs of a name that count, in lower case. -/
def significantName (name : List Char) : List Char :=
  (name.filter fun c => c.toNat < 128 && !" _-".toList.contains c).map Char.toLower

def normalizedName (name : String) : String :=
  match name.toList with
  | first :: second :: rest =>
    let name := significantName (first :: second :: rest)
    if (first = 'i' ∨ first = 'I') ∧ (second = 's' ∨ second = 'S') then
      let short := significantName rest
      if short = ['c'] then "isc" else String.ofList short
    else String.ofList name
  | short => String.ofList (significantName short)

/-- Names, all of which mean the same set. -/
abbrev NamedSets := List (List String × CharSet)

def NamedSets.find? (sets : NamedSets) (name : String) : Option CharSet :=
  (List.find? (fun entry => entry.1.contains name) sets).map (·.2)

open Text in
def categorySets : NamedSets :=
  [(["any"], .all),
    (["assigned"], .among assigned),
    (["ascii"], .range '\x00' '\x7f'),
    (["c", "other"],
      .complement (.among (letters ++ marks ++ numbers ++ punctuation ++ symbols ++ separators))),
    (["cc", "control", "cntrl"], .among controls),
    (["cf", "format"], .among formats),
    (["cn", "unassigned"], .complement (.among assigned)),
    (["co", "privateuse"], .among privateUse),
    (["l", "letter"], .among letters),
    (["lc", "casedletter"], .among (upperLetters ++ lowerLetters ++ titleLetters)),
    (["ll", "lowercaseletter"], .among lowerLetters),
    (["lm", "modifierletter"], .among modifierLetters),
    (["lo", "otherletter"], .among otherLetters),
    (["lt", "titlecaseletter"], .among titleLetters),
    (["lu", "uppercaseletter"], .among upperLetters),
    (["m", "mark", "combiningmark"], .among marks),
    (["mc", "spacingmark"], .among spacingMarks),
    (["me", "enclosingmark"], .among enclosingMarks),
    (["mn", "nonspacingmark"], .among nonspacingMarks),
    (["n", "number"], .among numbers),
    (["nd", "decimalnumber", "digit"], .among decimalNumbers),
    (["nl", "letternumber"], .among letterNumbers),
    (["no", "othernumber"], .among otherNumbers),
    (["p", "punctuation", "punct"], .among punctuation),
    (["pc", "connectorpunctuation"], .among connectors),
    (["pd", "dashpunctuation"], .among dashes),
    (["pe", "closepunctuation"], .among closeMarks),
    (["pf", "finalpunctuation"], .among finalQuotes),
    (["pi", "initialpunctuation"], .among initialQuotes),
    (["po", "otherpunctuation"], .among otherPunctuation),
    (["ps", "openpunctuation"], .among openMarks),
    (["s", "symbol"], .among symbols),
    (["sc", "currencysymbol"], .among currencySymbols),
    (["sk", "modifiersymbol"], .among modifierSymbols),
    (["sm", "mathsymbol"], .among mathSymbols),
    (["so", "othersymbol"], .among otherSymbols),
    (["z", "separator"], .among separators),
    (["zl", "lineseparator"], .among lineSeparators),
    (["zp", "paragraphseparator"], .among paragraphSeparators),
    (["zs", "spaceseparator"], .among spaceSeparators)]

/-- The scripts, each with the characters that belong to it. -/
def scriptSets : NamedSets :=
  Text.scripts.map fun script => (script.names, .among script.ranges)

/-- All that scripts borrow from each other. -/
def borrowedSet : CharSet := .among (Text.scripts.flatMap (·.borrowed))

/-- The scripts, each with the characters that are used in it. -/
def usedScriptSets : NamedSets :=
  Text.scripts.map fun script =>
    (script.names,
      if script.givesAway then .both (.among script.ranges) (.complement borrowedSet)
      else .among (script.ranges ++ script.borrowed))

/-- What has another form in small letters. -/
def changedByLowering : CharSet :=
  .both (.among (Text.uppercase ++ Text.titleLetters))
    (.complement (.among Text.unchangedByLowering))

/-- What has another form in capitals. -/
def changedByRaising : CharSet :=
  .both (.among (Text.lowercase ++ Text.titleLetters))
    (.complement (.among Text.unchangedByRaising))

/-- What has another form at the beginning of a title. -/
def changedByTitling : CharSet :=
  .union (.among Text.changedByTitlingAlone)
    (.both changedByRaising (.complement (.among Text.unchangedByTitling)))

/-- What has another form where case does not count. -/
def changedByFolding : CharSet :=
  .union (.among Text.changedByFoldingAlone)
    (.both changedByLowering (.complement (.among Text.unchangedByFolding)))

open Text in
def binarySets : NamedSets :=
  [(["alphabetic", "alpha"], .among alphabetic),
    (["asciihexdigit", "ahex"],
      .union (.range '0' '9') (.union (.range 'a' 'f') (.range 'A' 'F'))),
    (["bidicontrol", "bidic"], .among directionControls),
    (["bidimirrored", "bidim"], .among turnedSigns),
    (["caseignorable", "ci"], .among caseIgnorable),
    (["cased"], .among cased),
    (["changeswhencasefolded", "cwcf"], changedByFolding),
    (["changeswhencasemapped", "cwcm"],
      .union changedByLowering (.union changedByRaising changedByTitling)),
    (["changeswhenlowercased", "cwl"], changedByLowering),
    (["changeswhentitlecased", "cwt"], changedByTitling),
    (["changeswhenuppercased", "cwu"], changedByRaising),
    (["dash"], .among dashSigns),
    (["defaultignorablecodepoint", "di"], .among ignorable),
    (["deprecated", "dep"], .among deprecatedCharacters),
    (["diacritic", "dia"], .among diacritics),
    (["emoji"], .among emoji),
    (["emojicomponent", "ecomp"], .among emojiComponents),
    (["emojimodifier", "emod"], .among emojiModifiers),
    (["emojimodifierbase", "ebase"], .among emojiModifierBases),
    (["emojipresentation", "epres"], .among emojiPresentation),
    (["extendedpictographic", "extpict"], .among pictographs),
    (["extender", "ext"], .among extenders),
    (["graphemebase", "grbase"],
      .both (.among (letters ++ marks ++ numbers ++ punctuation ++ symbols ++ spaceSeparators))
        (.complement (.among graphemeExtenders))),
    (["graphemeextend", "grext"], .among graphemeExtenders),
    (["hexdigit", "hex"], .among hexDigitSigns),
    (["idcontinue", "idc"], .both (.among identifierParts) (.complement (.among patternSigns))),
    (["ideographic", "ideo"], .among ideographs),
    (["idsbinaryoperator", "idsb"], .among binaryDescriptions),
    (["idstart", "ids"], .both (.among identifierStarts) (.complement (.among patternSigns))),
    (["idstrinaryoperator", "idst"], .among ternaryDescriptions),
    (["joincontrol", "joinc"], .among joiners),
    (["logicalorderexception", "loe"], .among logicalOrderExceptions),
    (["lowercase", "lower"], .among lowercase),
    (["math"], .among mathSigns),
    (["noncharactercodepoint", "nchar"], .among noncharacters),
    (["otheralphabetic", "oalpha"], .among otherAlphabetic),
    (["othergraphemeextend", "ogrext"], .among otherGraphemeExtenders),
    (["otheridcontinue", "oidc"], .among otherIdentifierParts),
    (["otheridstart", "oids"], .among otherIdentifierStarts),
    (["otherlowercase", "olower"], .among otherLowercase),
    (["othermath", "omath"], .both (.among mathSigns) (.complement (.among mathSymbols))),
    (["otheruppercase", "oupper"], .among otherUppercase),
    (["patternsyntax", "patsyn"], .among patternSigns),
    (["patternwhitespace", "patws"], .among patternBlanks),
    (["quotationmark", "qmark"], .among quotationMarks),
    (["radical"], .among radicals),
    (["regionalindicator", "ri"], .among regionalIndicators),
    (["sentenceterminal", "sterm"], .among sentenceEnds),
    (["softdotted", "sd"], .among softDotted),
    (["terminalpunctuation", "term"], .among terminalPunctuation),
    (["unifiedideograph", "uideo"], .among unifiedIdeographs),
    (["uppercase", "upper"], .among uppercase),
    (["variationselector", "vs"], .among variationSelectors),
    (["whitespace", "wspace", "space"], .among blankRanges),
    (["xidcontinue", "xidc"],
      .both (.among identifierParts) (.complement (.among (patternSigns ++ notExtendedParts)))),
    (["xidstart", "xids"],
      .both (.among identifierStarts) (.complement (.among (patternSigns ++ notExtendedStarts))))]

/-- The characters with a property. -/
def PropertyName.set? : PropertyName → Except Cause CharSet
  | named name =>
    let name := normalizedName name
    match (binarySets ++ categorySets ++ scriptSets).find? name with
    | some set => .ok set
    | none => .error .propertyUnknown
  | valued name value =>
    let sets? : Option NamedSets :=
      match normalizedName name with
      | "gc" | "generalcategory" => some categorySets
      | "sc" | "script" => some scriptSets
      | "scx" | "scriptextensions" => some usedScriptSets
      | _ => none
    match sets? with
    | none => .error .propertyUnknown
    | some sets =>
      match sets.find? (normalizedName value) with
      | some set => .ok set
      | none => .error .propertyValueUnknown

end MeterUplink.Pattern
