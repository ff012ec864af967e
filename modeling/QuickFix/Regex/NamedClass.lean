import QuickFix.Regex.CharSet
import QuickFix.Unicode.Script

/-!
Character classes that patterns name: the classes in ASCII, and general categories, scripts and
properties of Unicode. Names of the latter are compared without case, blanks, hyphens and
underscores.
-/

namespace QuickFix.Regex

open Unicode CharSet

/-- The classes in ASCII that may stand between `[:` and `:]`. -/
def asciiClass? (name : String) : Option CharSet :=
  match name with
  | "alnum" => some (bands [stretch 0x30 0x39, stretch 0x41 0x5A, stretch 0x61 0x7A])
  | "alpha" => some (bands [stretch 0x41 0x5A, stretch 0x61 0x7A])
  | "ascii" => some ascii
  | "blank" => some (bands [stretch 0x09 0x09, stretch 0x20 0x20])
  | "cntrl" => some (bands [stretch 0x00 0x1F, stretch 0x7F 0x7F])
  | "digit" => some asciiDigit
  | "graph" => some (bands [stretch 0x21 0x7E])
  | "lower" => some (bands [stretch 0x61 0x7A])
  | "print" => some (bands [stretch 0x20 0x7E])
  | "punct" =>
    some (bands [stretch 0x21 0x2F, stretch 0x3A 0x40, stretch 0x5B 0x60, stretch 0x7B 0x7E])
  | "space" => some asciiSpace
  | "upper" => some (bands [stretch 0x41 0x5A])
  | "word" => some asciiWord
  | "xdigit" => some (bands [stretch 0x30 0x39, stretch 0x41 0x46, stretch 0x61 0x66])
  | _ => none

/-- Connectors, dashes, brackets, quotes and other punctuation. -/
def punctuation : CharSet :=
  unions [bands connectorPunctuation, bands dashPunctuation, bands openPunctuation,
    bands closePunctuation, bands initialPunctuation, bands finalPunctuation,
    bands otherPunctuation]

def symbol : CharSet :=
  unions [bands mathSymbol, bands currencySymbol, bands modifierSymbol, bands otherSymbol]

def separator : CharSet :=
  unions [bands spaceSeparator, bands lineSeparator, bands paragraphSeparator]

/-- The characters that stand for something. -/
def assigned : CharSet :=
  unions [letter, mark, numeral, punctuation, symbol, separator, bands control, bands format,
    bands privateUse]

/-- General categories with the names they may be called by. -/
def categories : List (List String × CharSet) := [
  (["any"], all),
  (["assigned"], assigned),
  (["ascii"], ascii),
  (["c", "other"], compl (diff assigned (unions [bands control, bands format, bands privateUse]))),
  (["cc", "control", "cntrl"], bands control),
  (["cf", "format"], bands format),
  (["cn", "unassigned"], compl assigned),
  (["co", "privateuse"], bands privateUse),
  (["l", "letter"], letter),
  (["lc", "casedletter"],
    unions [bands uppercaseLetter, bands lowercaseLetter, bands titlecaseLetter]),
  (["ll", "lowercaseletter"], bands lowercaseLetter),
  (["lm", "modifierletter"], bands modifierLetter),
  (["lo", "otherletter"], bands otherLetter),
  (["lt", "titlecaseletter"], bands titlecaseLetter),
  (["lu", "uppercaseletter"], bands uppercaseLetter),
  (["m", "mark", "combiningmark"], mark),
  (["mc", "spacingmark"], bands spacingMark),
  (["me", "enclosingmark"], bands enclosingMark),
  (["mn", "nonspacingmark"], bands nonspacingMark),
  (["n", "number"], numeral),
  (["nd", "decimalnumber", "digit"], bands decimalNumber),
  (["nl", "letternumber"], bands letterNumber),
  (["no", "othernumber"], bands otherNumber),
  (["p", "punctuation", "punct"], punctuation),
  (["pc", "connectorpunctuation"], bands connectorPunctuation),
  (["pd", "dashpunctuation"], bands dashPunctuation),
  (["pe", "closepunctuation"], bands closePunctuation),
  (["pf", "finalpunctuation"], bands finalPunctuation),
  (["pi", "initialpunctuation"], bands initialPunctuation),
  (["po", "otherpunctuation"], bands otherPunctuation),
  (["ps", "openpunctuation"], bands openPunctuation),
  (["s", "symbol"], symbol),
  (["sc", "currencysymbol"], bands currencySymbol),
  (["sk", "modifiersymbol"], bands modifierSymbol),
  (["sm", "mathsymbol"], bands mathSymbol),
  (["so", "othersymbol"], bands otherSymbol),
  (["z", "separator"], separator),
  (["zl", "lineseparator"], bands lineSeparator),
  (["zp", "paragraphseparator"], bands paragraphSeparator),
  (["zs", "spaceseparator"], bands spaceSeparator)]

def lowercase : CharSet := union (bands lowercaseLetter) (bands otherLowercase)

def uppercase : CharSet := union (bands uppercaseLetter) (bands otherUppercase)

def identifierStart : CharSet :=
  diff (unions [letter, bands letterNumber, bands [stretch 0x2118 0x2118, stretch 0x212E 0x212E,
    stretch 0x309B 0x309C]]) (bands [stretch 0x2E2F 0x2E2F])

def identifierPart : CharSet :=
  unions [identifierStart, bands [stretch 0x1885 0x1886], bands nonspacingMark, bands spacingMark,
    bands decimalNumber, bands connectorPunctuation,
    bands [stretch 0xB7 0xB7, stretch 0x387 0x387, stretch 0x1369 0x1371, stretch 0x19DA 0x19DA,
      stretch 0x200C 0x200D, stretch 0x30FB 0x30FB, stretch 0xFF65 0xFF65]]

/-- Characters that identifiers lose when they are brought into a compatible form. -/
def unstableParts : List Band := [
  stretch 0x37A 0x37A, stretch 0x309B 0x309C, stretch 0xFC5E 0xFC63, stretch 0xFDFA 0xFDFB,
  ⟨0xFE70, 0xFE7E, 2⟩]

/-- Characters that only the start of an identifier loses. -/
def unstableStarts : List Band := [
  stretch 0xE33 0xE33, stretch 0xEB3 0xEB3, stretch 0xFF9E 0xFF9F]

/-- Marks that a grapheme goes on with. -/
def graphemeExtend : CharSet :=
  unions [bands nonspacingMark, bands enclosingMark, bands otherGraphemeExtend]

/-- Properties with the names they may be called by. -/
def properties : List (List String × CharSet) := [
  (["alpha", "alphabetic"], alphabetic),
  (["ahex", "asciihexdigit"], bands asciiHexDigit),
  (["bidic", "bidicontrol"], bands bidiControl),
  (["bidim", "bidimirrored"], bands bidiMirrored),
  (["ci", "caseignorable"],
    unions [bands nonspacingMark, bands enclosingMark, bands format, bands modifierLetter,
      bands modifierSymbol, bands otherCaseIgnorable]),
  (["cased"], unions [lowercase, uppercase, bands titlecaseLetter]),
  (["dash"], bands dash),
  (["di", "defaultignorablecodepoint"], bands defaultIgnorable),
  (["dep", "deprecated"], bands deprecatedCharacter),
  (["dia", "diacritic"], bands diacritic),
  (["emoji"], bands emoji),
  (["ecomp", "emojicomponent"], bands emojiComponent),
  (["emod", "emojimodifier"], bands emojiModifier),
  (["ebase", "emojimodifierbase"], bands emojiModifierBase),
  (["epres", "emojipresentation"], bands emojiPresentation),
  (["extpict", "extendedpictographic"], bands extendedPictographic),
  (["ext", "extender"], bands extender),
  (["grbase", "graphemebase"],
    diff assigned (unions [bands control, bands format, bands privateUse, bands lineSeparator,
      bands paragraphSeparator, graphemeExtend])),
  (["grext", "graphemeextend"], graphemeExtend),
  (["hex", "hexdigit"], bands hexDigit),
  (["idsb", "idsbinaryoperator"], bands idsBinaryOperator),
  (["idst", "idstrinaryoperator"], bands idsTrinaryOperator),
  (["idc", "idcontinue"], identifierPart),
  (["ids", "idstart"], union identifierStart (bands [stretch 0x1885 0x1886])),
  (["ideo", "ideographic"], bands ideographic),
  (["joinc", "joincontrol"], bands joinControl),
  (["loe", "logicalorderexception"], bands logicalOrderException),
  (["lower", "lowercase"], lowercase),
  (["math"], union (bands mathSymbol) (bands otherMath)),
  (["nchar", "noncharactercodepoint"], bands noncharacter),
  (["patsyn", "patternsyntax"], bands patternSigns),
  (["patws", "patternwhitespace"], bands patternWhiteSpace),
  (["qmark", "quotationmark"], bands quotationMark),
  (["radical"], bands radical),
  (["ri", "regionalindicator"], bands regionalIndicator),
  (["sterm", "sentenceterminal"], bands sentenceTerminal),
  (["sd", "softdotted"], bands softDotted),
  (["term", "terminalpunctuation"], bands terminalPunctuation),
  (["uideo", "unifiedideograph"], bands unifiedIdeograph),
  (["upper", "uppercase"], uppercase),
  (["vs", "variationselector"], bands variationSelector),
  (["space", "wspace", "whitespace"], bands whiteSpace),
  (["xidc", "xidcontinue"], diff identifierPart (bands unstableParts)),
  (["xids", "xidstart"],
    diff (union identifierStart (bands [stretch 0x1885 0x1886]))
      (union (bands unstableParts) (bands unstableStarts)))]

/-- The set listed under a name. -/
def called? (name : String) (table : List (List String × CharSet)) : Option CharSet :=
  (table.find? fun entry => entry.1.contains name).map Prod.snd

def script? (name : String) : Option CharSet :=
  (scripts.find? fun s => s.names.contains name).map fun s => bands s.bands

/-- The form in which names are compared: ASCII letters are small, blanks, hyphens, underscores and
other characters beyond ASCII are left out, and so is `is` in front. Only `isc`, which would leave a
single letter with another meaning, keeps it. -/
def plainName (name : List Char) : String :=
  let (hasIs, body) :=
    match name with
    | a :: b :: rest =>
      if (a = 'i' ∨ a = 'I') ∧ (b = 's' ∨ b = 'S') then (true, rest) else (false, name)
    | _ => (false, name)
  let kept := (body.filter fun c => c ≠ ' ' && c ≠ '_' && c ≠ '-' && c.toNat ≤ 0x7F).map Char.toLower
  if hasIs && kept = ['c'] then "isc" else String.ofList kept

/-- The class of a name: a property, a general category or a script. Names that are short for both a
category and a property mean the category. -/
def classNamed? (name : List Char) : Option CharSet :=
  let n := plainName name
  let property? := if n = "cf" || n = "sc" || n = "lc" then none else called? n properties
  property? <|> called? n categories <|> script? n

/-- The class of a property with a value: general categories and scripts have values. -/
def classValued? (property value : List Char) : Option CharSet :=
  let p := plainName property
  let v := plainName value
  if p = "gc" || p = "generalcategory" then called? v categories
  else if p = "sc" || p = "script" then script? v
  else none

end QuickFix.Regex
