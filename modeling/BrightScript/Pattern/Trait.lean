import BrightScript.Pattern.Category

namespace BrightScript.CharSet

/-- Letters and what is used like letters. -/
def alphabetic : CharSet :=
  unions [letters, table Text.letterNumbers, table Text.otherAlphabetic]

def lowercase : CharSet := union (table Text.lowercaseLetters) (table Text.otherLowercase)

def uppercase : CharSet := union (table Text.uppercaseLetters) (table Text.otherUppercase)

def cased : CharSet := unions [lowercase, uppercase, table Text.titlecaseLetters]

/-- Punctuation that may stand between the letters of a word. -/
def midLetters : Text.CodeTable := .ofText "3A B7 387 55F 5F4 2027 FE13 FE55 FF1A"

/-- Punctuation that may stand between the letters of a word and between digits. -/
def midNumberLetters : Text.CodeTable := .ofText "2E 2018-2019 2024 FE52 FF07 FF0E"

/-- Characters that case is seen through. -/
def caseIgnorable : CharSet :=
  unions [table Text.nonspacingMarks, table Text.enclosingMarks, table Text.formatCharacters,
    table Text.modifierLetters, table Text.modifierSymbols, table midLetters,
    table midNumberLetters, single '\'']

/-- Characters that a mapping of case changes. -/
def casemapped : CharSet :=
  unions [table Text.changesWhenLowercased, table Text.changesWhenUppercased,
    table Text.changesWhenTitlecased]

/-- Characters that extend the one before. -/
def graphemeExtend : CharSet :=
  unions [table Text.nonspacingMarks, table Text.enclosingMarks, table Text.otherGraphemeExtend]

/-- Characters that are shown by themselves. -/
def graphemeBase : CharSet :=
  complement (unions [others, table Text.lineSeparators, table Text.paragraphSeparators,
    graphemeExtend])

/-- Characters that may be left out of what is shown. -/
def defaultIgnorable : CharSet :=
  difference
    (unions [table Text.otherDefaultIgnorable, table Text.formatCharacters,
      table Text.variationSelectors])
    (unions [table Text.whiteSpace, table Text.prependedMarks, range '\ufff9' '\ufffb',
      range (Char.ofNat 0x13430) (Char.ofNat 0x1343F)])

/-- What patterns keep for themselves. -/
def patternReserved : CharSet := union (table Text.patternSyntax) (table Text.patternWhiteSpace)

/-- Characters that may start an identifier. -/
def identifierStart : CharSet :=
  difference (unions [letters, table Text.letterNumbers, table Text.otherIdStart]) patternReserved

/-- Characters that may continue an identifier. -/
def identifierContinue : CharSet :=
  difference
    (unions [identifierStart, table Text.nonspacingMarks, table Text.spacingMarks,
      table Text.decimalNumbers, table Text.connectors, table Text.otherIdContinue])
    patternReserved

/-- Characters whose normal form may not continue an identifier. -/
def unstableContinue : Text.CodeTable :=
  .ofText "37A 309B-309C FC5E-FC63 FDFA-FDFB FE70-FE7E/2"

/-- Further characters whose normal form may not start an identifier. -/
def unstableStart : Text.CodeTable := .ofText "E33 EB3 FF9E-FF9F"

/-- The characters with a property that they either have or not, by its name in lower case without
separators. -/
def trait? : String → Option CharSet
  | "ahex" | "asciihexdigit" => some (table Text.asciiHexDigits)
  | "alpha" | "alphabetic" => some alphabetic
  | "bidic" | "bidicontrol" => some (table Text.bidiControls)
  | "bidim" | "bidimirrored" => some (table Text.bidiMirrored)
  | "ci" | "caseignorable" => some caseIgnorable
  | "cased" => some cased
  | "cwcf" | "changeswhencasefolded" => some (table Text.changesWhenCasefolded)
  | "cwcm" | "changeswhencasemapped" => some casemapped
  | "cwl" | "changeswhenlowercased" => some (table Text.changesWhenLowercased)
  | "cwt" | "changeswhentitlecased" => some (table Text.changesWhenTitlecased)
  | "cwu" | "changeswhenuppercased" => some (table Text.changesWhenUppercased)
  | "dash" => some (table Text.dashes)
  | "di" | "defaultignorablecodepoint" => some defaultIgnorable
  | "dep" | "deprecated" => some (table Text.deprecated)
  | "dia" | "diacritic" => some (table Text.diacritics)
  | "emoji" => some (table Text.emoji)
  | "ecomp" | "emojicomponent" => some (table Text.emojiComponents)
  | "emod" | "emojimodifier" => some (table Text.emojiModifiers)
  | "ebase" | "emojimodifierbase" => some (table Text.emojiModifierBases)
  | "epres" | "emojipresentation" => some (table Text.emojiPresentation)
  | "extpict" | "extendedpictographic" => some (table Text.extendedPictographic)
  | "ext" | "extender" => some (table Text.extenders)
  | "grbase" | "graphemebase" => some graphemeBase
  | "grext" | "graphemeextend" => some graphemeExtend
  | "grlink" | "graphemelink" => some (table Text.graphemeLinks)
  | "hex" | "hexdigit" => some (table Text.hexDigits)
  | "hyphen" => some (table Text.hyphens)
  | "idsb" | "idsbinaryoperator" => some (table Text.descriptionBinaryOperators)
  | "idst" | "idstrinaryoperator" => some (table Text.descriptionTrinaryOperators)
  | "idsu" | "idsunaryoperator" => some (table Text.descriptionUnaryOperators)
  | "idcompatmathcontinue" => some (table Text.compatMathContinue)
  | "idcompatmathstart" => some (table Text.compatMathStart)
  | "idc" | "idcontinue" => some identifierContinue
  | "ids" | "idstart" => some identifierStart
  | "ideo" | "ideographic" => some (table Text.ideographs)
  | "joinc" | "joincontrol" => some (table Text.joinControls)
  | "loe" | "logicalorderexception" => some (table Text.logicalOrderExceptions)
  | "lower" | "lowercase" => some lowercase
  | "math" => some (union (table Text.mathSymbols) (table Text.otherMath))
  | "mcm" | "modifiercombiningmark" => some (table Text.modifierCombiningMarks)
  | "nchar" | "noncharactercodepoint" => some (table Text.noncharacters)
  | "oalpha" | "otheralphabetic" => some (table Text.otherAlphabetic)
  | "odi" | "otherdefaultignorablecodepoint" => some (table Text.otherDefaultIgnorable)
  | "ogrext" | "othergraphemeextend" => some (table Text.otherGraphemeExtend)
  | "oidc" | "otheridcontinue" => some (table Text.otherIdContinue)
  | "oids" | "otheridstart" => some (table Text.otherIdStart)
  | "olower" | "otherlowercase" => some (table Text.otherLowercase)
  | "omath" | "othermath" => some (table Text.otherMath)
  | "oupper" | "otheruppercase" => some (table Text.otherUppercase)
  | "patsyn" | "patternsyntax" => some (table Text.patternSyntax)
  | "patws" | "patternwhitespace" => some (table Text.patternWhiteSpace)
  | "pcm" | "prependedconcatenationmark" => some (table Text.prependedMarks)
  | "qmark" | "quotationmark" => some (table Text.quotationMarks)
  | "radical" => some (table Text.radicals)
  | "ri" | "regionalindicator" => some (table Text.regionalIndicators)
  | "sterm" | "sentenceterminal" => some (table Text.sentenceTerminals)
  | "sd" | "softdotted" => some (table Text.softDotted)
  | "term" | "terminalpunctuation" => some (table Text.terminalPunctuation)
  | "uideo" | "unifiedideograph" => some (table Text.unifiedIdeographs)
  | "upper" | "uppercase" => some uppercase
  | "vs" | "variationselector" => some (table Text.variationSelectors)
  | "space" | "whitespace" | "wspace" => some blank
  | "xidc" | "xidcontinue" => some (difference identifierContinue (table unstableContinue))
  | "xids" | "xidstart" =>
    some (difference identifierStart (union (table unstableContinue) (table unstableStart)))
  | _ => Option.none

end BrightScript.CharSet
