/-
# Text segmentation

The classes of characters by which the Unicode standard, in its version 16, tells
where a grapheme, a word and a sentence ends.
-/

import LuaBundler.Text.Unicode.Derived

namespace LuaBundler
namespace Text
namespace Unicode

open Category Property

/-- The joiner of graphemes. -/
def joiner : CharSet := .ofTable "200D"

/-- Characters that some rule of text segmentation takes alone. -/
def carriageReturn : CharSet := .ofTable "D"

/-- The line feed. -/
def lineFeed : CharSet := .ofTable "A"

/-- Characters besides the digits that belong to numbers. -/
def numberSigns : CharSet := .ofTable "600-605 66B 6DD 890-891 8E2 19DA 110BD 110CD"

/-- Letters of scripts that are written without blanks between words. -/
def unspacedLetter : CharSet := .ofTable "
  E01-E30 E32-E33 E40-E46 E81-E82 E84 E86-E8A E8C-EA3 EA5 EA7-EB0 EB2-EB3 EBD EC0-EC4 EC6 EDC-EDF
  1000-102A 103F 1050-1055 105A-105D 1061 1065-1066 106E-1070 1075-1081 108E 1780-17B3 17D7 17DC
  1950-196D 1970-1974 1980-19AB 19B0-19C9 1A20-1A54 1AA7 3041-3096 309D-309F A9E0-A9E4 A9E6-A9EF
  A9FA-A9FE AA60-AA76 AA7A AA7E-AAAF AAB1 AAB5-AAB6 AAB9-AABD AAC0 AAC2 AADB-AADD 11700-1171A
  11740-11746 1B001-1B11F 1B132 1B150-1B152"

/-! ## Graphemes -/

namespace Grapheme

/-- Signs that belong to the next character. -/
def prepend : CharSet := .ofTable "
  600-605 6DD 70F 890-891 8E2 D4E 110BD 110CD 111C2-111C3 113D1 1193F 11941 11A3A 11A84-11A89
  11D46 11F02"

/-- Characters that stand alone and are not shown. -/
def control : CharSet :=
  (CharSet.unions [lineSeparator, paragraphSeparator, Category.control, format,
    unassigned.inter defaultIgnorableCodePoint]).diff
    (.unions [carriageReturn, lineFeed, graphemeExtend, joiner, prependedConcatenationMark])

/-- Characters that extend the one before. -/
def extend : CharSet := (graphemeExtend.union emojiModifier).diff joiner

/-- Marks that take room and belong to the character before. -/
def spacingMark : CharSet :=
  (Category.spacingMark.union (.ofTable "E33 EB3")).diff (graphemeExtend.union (.ofTable "
      102B-102C 1038 1062-1064 1067-106D 1083 1087-108C 108F 109A-109C 1A61 1A63-1A64 AA7B AA7D
      11720-11721"))

/-- Leading consonants of Hangul. -/
def leading : CharSet := .ofTable "1100-115F A960-A97C"

/-- Vowels of Hangul. -/
def vowel : CharSet := .ofTable "1160-11A7 D7B0-D7C6 16D63 16D67-16D6A"

/-- Trailing consonants of Hangul. -/
def trailing : CharSet := .ofTable "11A8-11FF D7CB-D7FB"

/-- The number of syllables of Hangul that begin alike. -/
def trailingCount : Nat := 28

/-- Syllables of Hangul without a trailing consonant. -/
def openSyllable : CharSet :=
  .ofRanges ((List.range 399).map fun k => (0xAC00 + trailingCount * k, 0xAC00 + trailingCount * k))

/-- Syllables of Hangul with a trailing consonant. -/
def closedSyllable : CharSet := (CharSet.ofTable "AC00-D7A3").diff openSyllable

/-- The classes of characters in the rules on graphemes, by their names. -/
def classes : List (List String × CharSet) := [
  (["cr"], carriageReturn), (["lf"], lineFeed), (["control", "cn"], control),
  (["extend", "ex"], extend), (["zwj"], joiner), (["regionalindicator", "ri"], regionalIndicator),
  (["prepend", "pp"], prepend), (["spacingmark", "sm"], spacingMark), (["l"], leading),
  (["v"], vowel), (["t"], trailing), (["lv"], openSyllable), (["lvt"], closedSyllable)]

end Grapheme

/-! ## Words -/

namespace Word

/-- Letters of Hebrew. -/
def hebrewLetter : CharSet := .ofTable "
  5D0-5EA 5EF-5F2 FB1D FB1F-FB28 FB2A-FB36 FB38-FB3C FB3E FB40-FB41 FB43-FB44 FB46-FB4F"

/-- Katakana. -/
def katakana : CharSet := .ofTable "
  3031-3035 309B-309C 30A0-30FA 30FC-30FF 31F0-31FF 32D0-32FE 3300-3357 FF66-FF9D 1AFF0-1AFF3
  1AFF5-1AFFB 1AFFD-1AFFE 1B000 1B120-1B122 1B155 1B164-1B167"

/-- Signs that can stand between letters. -/
def midLetter : CharSet := .ofTable "3A B7 387 55F 5F4 2027 FE13 FE55 FF1A"

/-- Signs that can stand between digits. -/
def midNumber : CharSet := .ofTable "2C 3B 37E 589 60C-60D 66C 7F8 2044 FE50 FE54 FF0C FF1B"

/-- Signs that can stand between letters or digits. -/
def midNumberOrLetter : CharSet := .ofTable "2E 2018-2019 2024 FE52 FF07 FF0E"

/-- Line ends besides the carriage return and the line feed. -/
def newline : CharSet := .ofTable "B-C 85 2028-2029"

/-- Signs that connect words and numbers. -/
def connector : CharSet := .ofTable "5F 202F 203F-2040 2054 FE33-FE34 FE4D-FE4F FF3F"

/-- Spaces. -/
def space : CharSet := .ofTable "20 1680 2000-2006 2008-200A 205F 3000"

/-- Characters that extend the one before. -/
def extend : CharSet :=
  (CharSet.unions [graphemeExtend, Category.spacingMark, emojiModifier]).diff joiner

/-- Invisible signs. -/
def format : CharSet :=
  Category.format.diff
    (.unions [prependedConcatenationMark, .ofTable "200B-200D E0020-E007F"])

/-- Characters besides the letters that belong to words. -/
def wordSigns : CharSet := .ofTable "
  2C2-2C5 2D2-2D7 2DE-2DF 2E5-2EB 2ED 2EF-2FF 55A-55C 55E 58A 5F3 70F A708-A716 A720-A721
  A789-A78A AB5B"

/-- Letters of words that have blanks between them. -/
def letter : CharSet :=
  wordSigns.union (alphabetic.diff
    (.unions [ideographic, katakana, extend, hebrewLetter, unspacedLetter]))

/-- Characters of numbers. -/
def numeric : CharSet := decimalNumber.union numberSigns

/-- The classes of characters in the rules on words, by their names. -/
def classes : List (List String × CharSet) := [
  (["cr"], carriageReturn), (["lf"], lineFeed), (["newline", "nl"], newline),
  (["extend"], extend), (["zwj"], joiner), (["regionalindicator", "ri"], regionalIndicator),
  (["format", "fo"], format), (["katakana", "ka"], katakana),
  (["hebrewletter", "hl"], hebrewLetter), (["aletter", "le"], letter),
  (["singlequote", "sq"], .ofTable "27"), (["doublequote", "dq"], .ofTable "22"),
  (["midnumlet", "mb"], midNumberOrLetter), (["midletter", "ml"], midLetter),
  (["midnum", "mn"], midNumber), (["numeric", "nu"], numeric),
  (["extendnumlet", "ex"], connector), (["wsegspace"], space)]

end Word

/-- Characters that do not matter when one asks what stands beside a letter. -/
def caseIgnorable : CharSet :=
  .unions [nonspacingMark, enclosingMark, format, modifierLetter, modifierSymbol, Word.midLetter,
    Word.midNumberOrLetter, .ofTable "27"]

/-! ## Sentences -/

namespace Sentence

/-- Signs that go on a sentence. -/
def comma : CharSet := .ofTable "
  2C-2D 3A-3B 37E 55D 60C-60D 7F8 1802 1808 2013-2014 3001 FE10-FE11 FE13-FE14 FE31-FE32 FE50-FE51
  FE54-FE55 FE58 FE63 FF0C-FF0D FF1A-FF1B FF64"

/-- Full stops, which can also mark a shortened word. -/
def fullStop : CharSet := .ofTable "2E 2024 FE52 FF0E"

/-- Characters that extend the one before. -/
def extend : CharSet := .unions [graphemeExtend, Category.spacingMark, joiner]

/-- Invisible signs. -/
def format : CharSet :=
  Category.format.diff (.unions [(prependedConcatenationMark.diff (.ofTable "70F")),
    .ofTable "200C-200D E0020-E007F"])

/-- Spaces. -/
def space : CharSet := whiteSpace.diff (.ofTable "A D 85 2028-2029")

/-- Small letters. -/
def lower : CharSet := lowercase.diff (graphemeExtend.union (.ofTable "10D0-10FA 10FD-10FF"))

/-- Capital letters. -/
def upper : CharSet := (uppercase.union titlecaseLetter).diff (.ofTable "1C90-1CBA 1CBD-1CBF")

/-- Other letters. -/
def letter : CharSet :=
  (CharSet.ofTable "5F3").union (alphabetic.diff (.unions [lower, upper, extend]))

/-- Brackets and quotation marks. -/
def close : CharSet :=
  (CharSet.unions [openPunctuation, closePunctuation, initialPunctuation, finalPunctuation,
    quotationMark, .ofTable "275B-2760 2E00-2E01 2E06-2E08 2E0B 1F676-1F678"]).diff (.ofTable "FF02 FF07")

/-- The classes of characters in the rules on sentences, by their names. -/
def classes : List (List String × CharSet) := [
  (["cr"], carriageReturn), (["lf"], lineFeed), (["sep", "se"], .ofTable "85 2028-2029"),
  (["extend", "ex"], extend), (["format", "fo"], format), (["sp"], space),
  (["lower", "lo"], lower), (["upper", "up"], upper), (["oletter", "le"], letter),
  (["numeric", "nu"], Word.numeric.union (.ofTable "66C")), (["aterm", "at"], fullStop),
  (["scontinue", "sc"], comma), (["sterm", "st"], sentenceTerminal.diff fullStop),
  (["close", "cl"], close)]

end Sentence

end Unicode
end Text
end LuaBundler
