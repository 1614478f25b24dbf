/-
  Where text breaks: the classes of characters that decide on the boundaries of graphemes, words and
  sentences.
-/
import LiveForm.Unicode.Property
import LiveForm.Unicode.Script

namespace LiveForm.CharSet

def carriageReturn : CharSet := .single '\r'

def lineFeed : CharSet := .single '\n'

def zeroWidthJoiner : CharSet := .single '\u200d'

/-! ## Graphemes -/

namespace Grapheme

def extend : CharSet := graphemeExtend ∪ emojiModifier

def controls : CharSet :=
  unions [lineSeparator, paragraphSeparator, control, format,
    unassigned ∩ defaultIgnorableCodePoint] \
    unions [carriageReturn, lineFeed, zeroWidthJoiner, prependedConcatenationMark, extend]

/-- Characters that go before the first one of a grapheme. -/
def prepend : CharSet :=
  .ofTable "600-605 6DD 70F 890-891 8E2 D4E 110BD 110CD 111C2-111C3 113D1 1193F 11941 11A3A
    11A84-11A89 11D46 11F02"

/-- Spacing marks that do not join the character before them. -/
def standingMark : CharSet :=
  .ofTable "102B-102C 1038 1062-1064 1067-106D 1083 1087-108C 108F 109A-109C 1A61 1A63-1A64 AA7B
    AA7D 11720-11721"

def spacingMark : CharSet :=
  (CharSet.spacingMark ∪ ofTable "E33 EB3") \ unions [extend, standingMark]

/-- The first code point of the Hangul syllables. -/
def firstSyllable : Nat := 0xAC00

/-- The number of Hangul syllables that have the same beginning. -/
def endings : Nat := 28

/-- Hangul syllables that end in a vowel. -/
def openSyllable : CharSet := ofRanges ((List.range 399).map fun k =>
  (firstSyllable + endings * k, firstSyllable + endings * k))

/-- Hangul syllables that end in a consonant. -/
def closedSyllable : CharSet := ofTable "AC00-D7A3" \ openSyllable

def breakClasses : List NamedSet := [
  ⟨["cr"], carriageReturn⟩,
  ⟨["lf"], lineFeed⟩,
  ⟨["zwj"], zeroWidthJoiner⟩,
  ⟨["control", "cn"], controls⟩,
  ⟨["extend", "ex"], extend⟩,
  ⟨["prepend", "pp"], prepend⟩,
  ⟨["regionalindicator", "ri"], regionalIndicator⟩,
  ⟨["spacingmark", "sm"], spacingMark⟩,
  ⟨["l"], .ofTable "1100-115F A960-A97C"⟩,
  ⟨["v"], .ofTable "1160-11A7 D7B0-D7C6 16D63 16D67-16D6A"⟩,
  ⟨["t"], .ofTable "11A8-11FF D7CB-D7FB"⟩,
  ⟨["lv"], openSyllable⟩,
  ⟨["lvt"], closedSyllable⟩]

end Grapheme

/-! ## Words -/

/-- Formats that stand before numbers. -/
def formatNumeric : CharSet := .ofTable "600-605 6DD 890-891 8E2 110BD 110CD"

namespace Word

def extend : CharSet := unions [graphemeExtend, spacingMark, emojiModifier]

/-- Letters of Katakana, and what is written between them. -/
def katakana : CharSet :=
  .ofTable "3031-3035 309B-309C 30A0-30FA 30FC-30FF 31F0-31FF 32D0-32FE 3300-3357 FF66-FF9D
    1AFF0-1AFF3 1AFF5-1AFFB 1AFFD-1AFFE 1B000 1B120-1B122 1B155 1B164-1B167"

/-- Letters of Hebrew. -/
def hebrewLetter : CharSet :=
  .ofTable "5D0-5EA 5EF-5F2 FB1D FB1F-FB28 FB2A-FB36 FB38-FB3C FB3E FB40-FB41 FB43-FB44
    FB46-FB4F"

/-- Letters of scripts without blanks between words. -/
def complexContext : CharSet :=
  .ofTable "E01-E30 E32-E33 E40-E46 E81-E82 E84 E86-E8A E8C-EA3 EA5 EA7-EB0 EB2-EB3 EBD EC0-EC4
    EC6 EDC-EDF 1000-102A 103F 1050-1055 105A-105D 1061 1065-1066 106E-1070 1075-1081 108E
    1780-17B3 17D7 17DC 1950-196D 1970-1974 1980-19AB 19B0-19C9 1A20-1A54 1AA7 A9E0-A9E4
    A9E6-A9EF A9FA-A9FE AA60-AA76 AA7A AA7E-AAAF AAB1 AAB5-AAB6 AAB9-AABD AAC0 AAC2 AADB-AADD
    11700-1171A 11740-11746"

/-- Characters that are taken for letters. -/
def letterLike : CharSet :=
  .ofTable "2C2-2C5 2D2-2D7 2DE-2DF 2E5-2EB 2ED 2EF-2FF 55A-55C 55E 58A 5F3 70F A708-A716
    A720-A721 A789-A78A AB5B"

/-- The characters of a script. -/
def script (name : String) : CharSet := (NamedSet.find? scripts name).getD empty

def letter : CharSet :=
  (alphabetic \ unions [ideographic, katakana, hebrewLetter, extend, script "hiragana",
    complexContext]) ∪ letterLike

def numeric : CharSet := unions [decimalNumber, formatNumeric, ofTable "66B 19DA"]

def format : CharSet :=
  CharSet.format \ unions [ofTable "70F 200B", extend, zeroWidthJoiner, formatNumeric]

def extendNumLet : CharSet := connectorPunctuation ∪ ofTable "202F"

def breakClasses : List NamedSet := [
  ⟨["cr"], carriageReturn⟩,
  ⟨["lf"], lineFeed⟩,
  ⟨["zwj"], zeroWidthJoiner⟩,
  ⟨["newline", "nl"], .ofTable "B-C 85 2028-2029"⟩,
  ⟨["extend"], extend⟩,
  ⟨["format", "fo"], format⟩,
  ⟨["katakana", "ka"], katakana⟩,
  ⟨["hebrewletter", "hl"], hebrewLetter⟩,
  ⟨["aletter", "le"], letter⟩,
  ⟨["singlequote", "sq"], .single '\''⟩,
  ⟨["doublequote", "dq"], .single '"'⟩,
  ⟨["midletter", "ml"], midLetter⟩,
  ⟨["midnum", "mn"], .ofTable "2C 3B 37E 589 60C-60D 66C 7F8 2044 FE50 FE54 FF0C FF1B"⟩,
  ⟨["midnumlet", "mb"], midNumLet⟩,
  ⟨["numeric", "nu"], numeric⟩,
  ⟨["extendnumlet", "ex"], extendNumLet⟩,
  ⟨["regionalindicator", "ri"], regionalIndicator⟩,
  ⟨["wsegspace"], spaceSeparator \ ofTable "A0 2007 202F"⟩]

end Word

/-! ## Sentences -/

namespace Sentence

def extend : CharSet := unions [graphemeExtend, spacingMark, zeroWidthJoiner]

def separator : CharSet := ofTable "85 2028-2029"

def space : CharSet := blank \ unions [separator, carriageReturn, lineFeed]

def format : CharSet := CharSet.format \ unions [extend, formatNumeric]

/-- Small letters, those of Georgian apart, where case does not begin sentences. -/
def lower : CharSet := lowercase \ unions [graphemeExtend, ofTable "10D0-10FA 10FD-10FF"]

/-- Capital letters, those of Georgian apart. -/
def upper : CharSet := (uppercase ∪ titlecaseLetter) \ ofTable "1C90-1CBA 1CBD-1CBF"

def otherLetter : CharSet := (alphabetic ∪ ofTable "5F3") \ unions [lower, upper, extend]

def numeric : CharSet := Word.numeric ∪ ofTable "66C"

/-- Points that end a sentence, but also stand in abbreviations. -/
def ambiguousTerminator : CharSet := ofTable "2E 2024 FE52 FF0E"

/-- Brackets and quotation marks. -/
def close : CharSet :=
  .ofTable "22 27-29 5B 5D 7B 7D AB BB F3A-F3D 169B-169C 2018-201F 2039-203A 2045-2046 207D-207E
    208D-208E 2308-230B 2329-232A 275B-2760 2768-2775 27C5-27C6 27E6-27EF 2983-2998 29D8-29DB
    29FC-29FD 2E00-2E0D 2E1C-2E1D 2E20-2E29 2E42 2E55-2E5C 3008-3011 3014-301B 301D-301F
    FD3E-FD3F FE17-FE18 FE35-FE44 FE47-FE48 FE59-FE5E FF08-FF09 FF3B FF3D FF5B FF5D FF5F-FF60
    FF62-FF63 1F676-1F678"

/-- Punctuation after which a sentence goes on. -/
def continues : CharSet :=
  .ofTable "2C-2D 3A-3B 37E 55D 60C-60D 7F8 1802 1808 2013-2014 3001 FE10-FE11 FE13-FE14
    FE31-FE32 FE50-FE51 FE54-FE55 FE58 FE63 FF0C-FF0D FF1A-FF1B FF64"

def breakClasses : List NamedSet := [
  ⟨["cr"], carriageReturn⟩,
  ⟨["lf"], lineFeed⟩,
  ⟨["extend", "ex"], extend⟩,
  ⟨["sep", "se"], separator⟩,
  ⟨["format", "fo"], format⟩,
  ⟨["sp"], space⟩,
  ⟨["lower", "lo"], lower⟩,
  ⟨["upper", "up"], upper⟩,
  ⟨["oletter", "le"], otherLetter⟩,
  ⟨["numeric", "nu"], numeric⟩,
  ⟨["aterm", "at"], ambiguousTerminator⟩,
  ⟨["sterm", "st"], sentenceTerminal \ ambiguousTerminator⟩,
  ⟨["close", "cl"], close⟩,
  ⟨["scontinue", "sc"], continues⟩]

end Sentence

end LiveForm.CharSet
