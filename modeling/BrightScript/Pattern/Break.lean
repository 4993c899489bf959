import BrightScript.Pattern.Trait
import BrightScript.Text.ScriptTable

namespace BrightScript.CharSet

/-- Vowel signs that do not attach to the consonant before them. -/
def loneVowelSigns : Text.CodeTable := .ofText "
  102B-102C 1038 1062-1064 1067-106D 1083 1087-108C 108F 109A-109C 1A61 1A63-1A64 AA7B AA7D
  11720-11721"

/-- Characters besides the prepended marks that attach to the character after them. -/
def prefixedLetters : Text.CodeTable :=
  .ofText "D4E 111C2-111C3 113D1 1193F 11941 11A3A 11A84-11A89 11D46 11F02"

/-- Syllables of a consonant and a vowel. -/
def openSyllables : Text.CodeTable := .ofText "AC00-D788/1C"

/-- What extends the visible character before. -/
def clusterExtend : CharSet := union graphemeExtend (table Text.emojiModifiers)

/-- The joiner of visible characters. -/
def joiner : CharSet := single '\u200d'

/-- The characters with a part in visible characters. -/
def graphemeBreak? : String → Option CharSet
  | "cr" => some (single '\r')
  | "lf" => some (single '\n')
  | "cn" | "control" => some (difference
      (unions [table Text.controlCharacters, table Text.formatCharacters,
        table Text.lineSeparators, table Text.paragraphSeparators,
        intersection unassigned defaultIgnorable])
      (unions [single '\r', single '\n', table Text.prependedMarks, clusterExtend, joiner]))
  | "ex" | "extend" => some clusterExtend
  | "l" => some (table (.ofText "1100-115F A960-A97C"))
  | "v" => some (table (.ofText "1160-11A7 D7B0-D7C6 16D63 16D67-16D6A"))
  | "t" => some (table (.ofText "11A8-11FF D7CB-D7FB"))
  | "lv" => some (table openSyllables)
  | "lvt" => some (difference (range '\uac00' '\ud7a3') (table openSyllables))
  | "pp" | "prepend" => some (union (table Text.prependedMarks) (table prefixedLetters))
  | "ri" | "regionalindicator" => some (table Text.regionalIndicators)
  | "sm" | "spacingmark" => some (union
      (difference (table Text.spacingMarks) (union clusterExtend (table loneVowelSigns)))
      (ranges [('\u0e33', '\u0e33'), ('\u0eb3', '\u0eb3')]))
  | "zwj" => some joiner
  | _ => Option.none

/-- Marks and joiners that extend the character before. -/
def markExtend : CharSet := union graphemeExtend (table Text.spacingMarks)

/-- The characters of a script, by one of its names. -/
def scriptMembers (name : String) : CharSet :=
  match Text.scripts.find? (·.names.contains name) with
  | some script => table script.members
  | Option.none => none

/-- Katakana and what is used with it. -/
def katakanaWords : CharSet :=
  union (scriptMembers "katakana") (table (.ofText "3031-3035 309B-309C 30A0 30FC FF70"))

def hebrewWords : CharSet := intersection (scriptMembers "hebrew") (table Text.otherLetters)

/-- Letters of scripts that are written without spaces between the words. -/
def unspacedLetters : Text.CodeTable := .ofText "
  1000-102A 103F 1050-1055 105A-105D 1061 1065-1066 106E-1070 1075-1081 108E 1780-17B3 17D7 17DC
  1950-196D 1970-1974 1980-19AB 19B0-19C9 1A20-1A54 1AA7 A9E0-A9E4 A9E6-A9EF A9FA-A9FE AA60-AA76
  AA7A AA7E-AAAF AAB1 AAB5-AAB6 AAB9-AABD AAC0 AAC2 AADB-AADD 11700-1171A 11740-11746"

/-- Signs that are used like letters. -/
def letterlikeSigns : Text.CodeTable := .ofText "
  2C2-2C5 2D2-2D7 2DE-2DF 2E5-2EB 2ED 2EF-2FF 55A-55C 55E 58A 5F3 70F A708-A716 A720-A721
  A789-A78A AB5B"

/-- Marks that cover a number. -/
def numberMarks : CharSet := difference (table Text.prependedMarks) (single '\u070f')

/-- Letters of words that are written with spaces between them. -/
def spacedLetters : CharSet :=
  union
    (difference alphabetic
      (unions [table Text.ideographs, katakanaWords, hebrewWords, markExtend,
        table Text.emojiModifiers, scriptMembers "hiragana", scriptMembers "thai",
        scriptMembers "lao", table unspacedLetters]))
    (table letterlikeSigns)

/-- Digits and what is used with them. -/
def wordNumbers : CharSet :=
  unions [table Text.decimalNumbers, numberMarks, table (.ofText "66B 19DA")]

def wordBreak? : String → Option CharSet
  | "cr" => some (single '\r')
  | "lf" => some (single '\n')
  | "nl" | "newline" => some (table (.ofText "B-C 85 2028-2029"))
  | "extend" => some (union markExtend (table Text.emojiModifiers))
  | "zwj" => some joiner
  | "fo" | "format" => some (difference (table Text.formatCharacters)
      (unions [table Text.prependedMarks, range '\u200b' '\u200d',
        range (Char.ofNat 0xE0020) (Char.ofNat 0xE007F)]))
  | "ka" | "katakana" => some katakanaWords
  | "hl" | "hebrewletter" => some hebrewWords
  | "le" | "aletter" => some spacedLetters
  | "sq" | "singlequote" => some (single '\'')
  | "dq" | "doublequote" => some (single '"')
  | "mb" | "midnumlet" => some (table midNumberLetters)
  | "ml" | "midletter" => some (table midLetters)
  | "mn" | "midnum" =>
    some (table (.ofText "2C 3B 37E 589 60C-60D 66C 7F8 2044 FE50 FE54 FF0C FF1B"))
  | "nu" | "numeric" => some wordNumbers
  | "ex" | "extendnumlet" => some (union (table Text.connectors) (single '\u202f'))
  | "ri" | "regionalindicator" => some (table Text.regionalIndicators)
  | "wsegspace" => some (table (.ofText "20 1680 2000-2006 2008-200A 205F 3000"))
  | _ => Option.none

/-- Full stops, which may end a sentence. -/
def fullStops : Text.CodeTable := .ofText "2E 2024 FE52 FF0E"

/-- What extends a character of a sentence. -/
def sentenceExtend : CharSet := union markExtend joiner

def sentenceLower : CharSet :=
  difference lowercase (union sentenceExtend (ranges [('\u10d0', '\u10fa'), ('\u10fd', '\u10ff')]))

def sentenceUpper : CharSet :=
  difference (union uppercase (table Text.titlecaseLetters))
    (ranges [('\u1c90', '\u1cba'), ('\u1cbd', '\u1cbf')])

def sentenceNumbers : CharSet := union wordNumbers (single '\u066c')

def sentenceBreak? : String → Option CharSet
  | "cr" => some (single '\r')
  | "lf" => some (single '\n')
  | "se" | "sep" => some (table (.ofText "85 2028-2029"))
  | "ex" | "extend" => some sentenceExtend
  | "fo" | "format" =>
    some (difference (table Text.formatCharacters) (union sentenceNumbers sentenceExtend))
  | "sp" => some (table (.ofText "9 B-C 20 A0 1680 2000-200A 202F 205F 3000"))
  | "lo" | "lower" => some sentenceLower
  | "up" | "upper" => some sentenceUpper
  | "le" | "oletter" => some (union
      (difference alphabetic (unions [sentenceLower, sentenceUpper, sentenceExtend]))
      (single '\u05f3'))
  | "nu" | "numeric" => some sentenceNumbers
  | "at" | "aterm" => some (table fullStops)
  | "sc" | "scontinue" => some (table (.ofText "
      2C-2D 3A-3B 37E 55D 60C-60D 7F8 1802 1808 2013-2014 3001 FE10-FE11 FE13-FE14 FE31-FE32
      FE50-FE51 FE54-FE55 FE58 FE63 FF0C-FF0D FF1A-FF1B FF64"))
  | "st" | "sterm" => some (difference (table Text.sentenceTerminals) (table fullStops))
  | "cl" | "close" => some (union brackets
      (table (.ofText "22 27 275B-2760 2E00-2E01 2E06-2E08 2E0B 1F676-1F678")))
  | _ => Option.none

end BrightScript.CharSet
