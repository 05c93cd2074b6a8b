import DocStore.Unicode.Property
import DocStore.Unicode.Script

/-!
The classes of characters by which a text is divided into graphemes, words and sentences
(Unicode 16.0).

Characters that a division does not tell from the bulk are in no class of it.
-/

namespace DocStore.Unicode.Segmentation

open Category Property

/-! ## Graphemes -/

/-- Drawn as part of the character behind. -/
def prepended : CodeSet := .ofText
  ["600-605 6DD 70F 890-891 8E2 D4E 110BD 110CD 111C2-111C3 113D1 1193F 11941 11A3A",
   "11A84-11A89 11D46 11F02"]

def leadingJamo : CodeSet := .ofText ["1100-115F A960-A97C"]

def vowelJamo : CodeSet := .ofText ["1160-11A7 D7B0-D7C6 16D63 16D67-16D6A"]

def trailingJamo : CodeSet := .ofText ["11A8-11FF D7CB-D7FB"]

def hangulSyllable : CodeSet := .range 0xAC00 0xD7A3

/-- The syllables without a trailing consonant: one in twenty-eight. -/
def openSyllable : CodeSet :=
  .ofRanges ((List.range 399).map fun i => (0xAC00 + 28 * i, 0xAC00 + 28 * i))

def graphemeControl : CodeSet :=
  (CodeSet.unionAll [lineSeparator, paragraphSeparator, control, format,
    unassigned.inter defaultIgnorable]).diff
    (.unionAll [.ofText ["A D 200C-200D"], prependedConcatenationMark, graphemeExtend])

def graphemeExtender : CodeSet :=
  graphemeExtend.union emojiModifier

/-- Spacing marks that stand apart from the character before them. -/
def detachedMark : CodeSet := .ofText
  ["102B-102C 1038 1062-1064 1067-106D 1083 1087-108C 108F 109A-109C 1A61 1A63-1A64 AA7B",
   "AA7D 11720-11721"]

def spacingMark : CodeSet :=
  (spacing.union (.ofText ["E33 EB3"])).diff (graphemeExtender.union detachedMark)

def graphemeClasses : List NamedSet := [
  ⟨["cr"], .single 0xD⟩,
  ⟨["lf"], .single 0xA⟩,
  ⟨["control", "cn"], graphemeControl⟩,
  ⟨["extend", "ex"], graphemeExtender⟩,
  ⟨["zwj"], .single 0x200D⟩,
  ⟨["prepend", "pp"], prepended⟩,
  ⟨["spacingmark", "sm"], spacingMark⟩,
  ⟨["regionalindicator", "ri"], regionalIndicator⟩,
  ⟨["l"], leadingJamo⟩,
  ⟨["v"], vowelJamo⟩,
  ⟨["t"], trailingJamo⟩,
  ⟨["lv"], openSyllable⟩,
  ⟨["lvt"], hangulSyllable.diff openSyllable⟩]

/-! ## Words -/

def midLetter : CodeSet := .ofText ["3A B7 387 55F 5F4 2027 FE13 FE55 FF1A"]

def midNumber : CodeSet := .ofText ["2C 3B 37E 589 60C-60D 66C 7F8 2044 FE50 FE54 FF0C FF1B"]

def midNumberLetter : CodeSet := .ofText ["2E 2018-2019 2024 FE52 FF07 FF0E"]

def wordSpace : CodeSet := .ofText ["20 1680 2000-2006 2008-200A 205F 3000"]

/-- Beside the decimal digits. -/
def otherNumeric : CodeSet := .ofText ["600-605 66B 6DD 890-891 8E2 19DA 110BD 110CD"]

/-- Beside the alphabetic characters. -/
def otherWordLetter : CodeSet := .ofText
  ["2C2-2C5 2D2-2D7 2DE-2DF 2E5-2EB 2ED 2EF-2FF 55A-55C 55E 58A 5F3 70F A708-A716",
   "A720-A721 A789-A78A AB5B"]

/-- Beside the script. -/
def otherKatakana : CodeSet := .ofText ["3031-3035 309B-309C 30A0 30FC FF70"]

/-- Scripts written without marks between the words. -/
def unspacedScript : CodeSet :=
  Script.ofCodes ["thai", "laoo", "mymr", "khmr", "tale", "talu", "lana", "tavt", "ahom"]

def numeric : CodeSet :=
  decimal.union otherNumeric

def wordExtender : CodeSet :=
  .unionAll [graphemeExtend, spacing, emojiModifier]

def wordFormat : CodeSet :=
  format.diff (.unionAll [.ofText ["200B-200D"], prepended, wordExtender])

def katakana : CodeSet :=
  (Script.ofCodes ["kana"]).union otherKatakana

def hebrewLetter : CodeSet :=
  (Script.ofCodes ["hebr"]).inter otherLetter

def wordLetter : CodeSet :=
  (alphabetic.diff (.unionAll [ideographic, katakana, unspacedScript, Script.ofCodes ["hira"],
    wordExtender, hebrewLetter])).union otherWordLetter

def wordClasses : List NamedSet := [
  ⟨["cr"], .single 0xD⟩,
  ⟨["lf"], .single 0xA⟩,
  ⟨["newline", "nl"], .ofText ["B-C 85 2028-2029"]⟩,
  ⟨["extend"], wordExtender⟩,
  ⟨["zwj"], .single 0x200D⟩,
  ⟨["format", "fo"], wordFormat⟩,
  ⟨["katakana", "ka"], katakana⟩,
  ⟨["hebrewletter", "hl"], hebrewLetter⟩,
  ⟨["aletter", "le"], wordLetter⟩,
  ⟨["singlequote", "sq"], .single 0x27⟩,
  ⟨["doublequote", "dq"], .single 0x22⟩,
  ⟨["midnumlet", "mb"], midNumberLetter⟩,
  ⟨["midletter", "ml"], midLetter⟩,
  ⟨["midnum", "mn"], midNumber⟩,
  ⟨["numeric", "nu"], numeric⟩,
  ⟨["extendnumlet", "ex"], connector.union (.single 0x202F)⟩,
  ⟨["wsegspace"], wordSpace⟩,
  ⟨["regionalindicator", "ri"], regionalIndicator⟩]

/-! ## Sentences -/

/-- Punctuation behind which a sentence goes on. -/
def sentenceMiddle : CodeSet := .ofText
  ["2C-2D 3A-3B 37E 55D 60C-60D 7F8 1802 1808 2013-2014 3001 FE10-FE11 FE13-FE14",
   "FE31-FE32 FE50-FE51 FE54-FE55 FE58 FE63 FF0C-FF0D FF1A-FF1B FF64"]

/-- Ends a sentence or an abbreviation. -/
def fullStop : CodeSet := .ofText ["2E 2024 FE52 FF0E"]

/-- Quotation marks beside the brackets and the paired quotes. -/
def otherClosing : CodeSet := .ofText ["22 27 275B-2760 2E00-2E01 2E06-2E08 2E0B 1F676-1F678"]

def sentenceExtender : CodeSet :=
  .unionAll [graphemeExtend, spacing, .single 0x200D]

def sentenceNumeric : CodeSet :=
  numeric.union (.single 0x66C)

def sentenceFormat : CodeSet :=
  format.diff (.unionAll [.single 0x200C, sentenceExtender, sentenceNumeric])

def sentenceLower : CodeSet :=
  lowercase.diff (graphemeExtend.union georgian)

/-- The Georgian capitals begin no sentence. -/
def sentenceUpper : CodeSet :=
  (title.union uppercase).diff (.ofText ["1C90-1CBA 1CBD-1CBF"])

def sentenceLetter : CodeSet :=
  (alphabetic.union (.single 0x5F3)).diff
    (.unionAll [sentenceLower, sentenceUpper, sentenceExtender])

def lineEnd : CodeSet :=
  .ofText ["A D 85 2028-2029"]

def sentenceClose : CodeSet :=
  .unionAll [opening, closing, initialQuote, finalQuote, otherClosing]

def sentenceClasses : List NamedSet := [
  ⟨["cr"], .single 0xD⟩,
  ⟨["lf"], .single 0xA⟩,
  ⟨["sep", "se"], .ofText ["85 2028-2029"]⟩,
  ⟨["extend", "ex"], sentenceExtender⟩,
  ⟨["format", "fo"], sentenceFormat⟩,
  ⟨["sp"], whiteSpace.diff lineEnd⟩,
  ⟨["lower", "lo"], sentenceLower⟩,
  ⟨["upper", "up"], sentenceUpper⟩,
  ⟨["oletter", "le"], sentenceLetter⟩,
  ⟨["numeric", "nu"], sentenceNumeric⟩,
  ⟨["aterm", "at"], fullStop⟩,
  ⟨["scontinue", "sc"], sentenceMiddle⟩,
  ⟨["sterm", "st"], sentenceTerminal.diff fullStop⟩,
  ⟨["close", "cl"], sentenceClose⟩]

end DocStore.Unicode.Segmentation
