/-
  Where texts divide into sentences, words and clusters: the classes of characters that the
  Unicode character database, version 16, distinguishes for the three kinds of boundary.
-/
import Reroute.Text.Property
import Reroute.Text.Script

namespace Reroute.Text.Break

open Category Property

/-! Sentences -/

def sentenceCR : CharSet := .ofTable "D"

def sentenceLF : CharSet := .ofTable "A"

def sentenceSep : CharSet := .ofTable "85 2028-2029"

def sentenceExtend : CharSet := .unions [graphemeExtend, spacingMark, .ofTable "200D"]

def sentenceLower : CharSet := lowercase.diff (.ofTable "345 10D0-10FA 10FD-10FF")

def sentenceUpper : CharSet :=
  (CharSet.unions [uppercase, titlecaseLetter]).diff (.ofTable "1C90-1CBA 1CBD-1CBF")

def sentenceOLetter : CharSet :=
  let letters := alphabetic.diff (.unions [sentenceLower, sentenceUpper, sentenceExtend])
  .unions [letters, .ofTable "5F3"]

def sentenceNumeric : CharSet := .unions [decimalNumber, .ofTable "
  600-605 66B-66C 6DD 890-891 8E2 19DA 110BD 110CD"]

def sentenceFormat : CharSet := format.diff (.ofTable "
  600-605 6DD 890-891 8E2 200C-200D 110BD 110CD E0020-E007F")

def sentenceSp : CharSet := whiteSpace.diff (.ofTable "A D 85 2028-2029")

def sentenceSTerm : CharSet := sentenceTerminal.diff (.ofTable "2E 2024 FE52 FF0E")

def sentenceATerm : CharSet := .ofTable "2E 2024 FE52 FF0E"

def sentenceSContinue : CharSet := .ofTable "
  2C-2D 3A-3B 37E 55D 60C-60D 7F8 1802 1808 2013-2014 3001 FE10-FE11 FE13-FE14 FE31-FE32
  FE50-FE51 FE54-FE55 FE58 FE63 FF0C-FF0D FF1A-FF1B FF64"

def sentenceClose : CharSet :=
  .unions [openPunctuation, closePunctuation, initialPunctuation, finalPunctuation, .ofTable "
  22 27 275B-2760 2E00-2E01 2E06-2E08 2E0B 1F676-1F678"]

/-! Words -/

def wordCR : CharSet := .ofTable "D"

def wordLF : CharSet := .ofTable "A"

def wordNewline : CharSet := .ofTable "B-C 85 2028-2029"

def wordDoubleQuote : CharSet := .ofTable "22"

def wordSingleQuote : CharSet := .ofTable "27"

def wordMidLetter : CharSet := .ofTable "3A B7 387 55F 5F4 2027 FE13 FE55 FF1A"

def wordMidNum : CharSet := .ofTable "2C 3B 37E 589 60C-60D 66C 7F8 2044 FE50 FE54 FF0C FF1B"

def wordMidNumLet : CharSet := .ofTable "2E 2018-2019 2024 FE52 FF07 FF0E"

def wordRegionalIndicator : CharSet := .ofTable "1F1E6-1F1FF"

def wordWSegSpace : CharSet := .ofTable "20 1680 2000-2006 2008-200A 205F 3000"

def wordZWJ : CharSet := .ofTable "200D"

def wordExtendNumLet : CharSet := .ofTable "5F 202F 203F-2040 2054 FE33-FE34 FE4D-FE4F FF3F"

def wordExtend : CharSet :=
  (CharSet.unions [sentenceExtend, .ofTable "1F3FB-1F3FF"]).diff (.ofTable "200D")

def wordFormat : CharSet := format.diff (.ofTable "
  600-605 6DD 70F 890-891 8E2 200B-200D 110BD 110CD E0020-E007F")

def wordNumeric : CharSet := sentenceNumeric.diff (.ofTable "66C")

def wordHebrewLetter : CharSet := .ofTable "
  5D0-5EA 5EF-5F2 FB1D FB1F-FB28 FB2A-FB36 FB38-FB3C FB3E FB40-FB41 FB43-FB44 FB46-FB4F"

def wordKatakana : CharSet := .ofTable "
  3031-3035 309B-309C 30A0-30FA 30FC-30FF 31F0-31FF 32D0-32FE 3300-3357 FF66-FF9D 1AFF0-1AFF3
  1AFF5-1AFFB 1AFFD-1AFFE 1B000 1B120-1B122 1B155 1B164-1B167"

def wordALetter : CharSet :=
  let letters := alphabetic.diff (.unions [ideographic, wordExtend, wordKatakana, wordHebrewLetter])
  let marks := .ofTable "
    2C2-2C5 2D2-2D7 2DE-2DF 2E5-2EB 2ED 2EF-2FF 55A-55C 55E 58A 5F3 70F A708-A716 A720-A721
    A789-A78A AB5B"
  (letters.union marks).diff (.ofTable "
    E01-E30 E32-E33 E40-E46 E81-E82 E84 E86-E8A E8C-EA3 EA5 EA7-EB0 EB2-EB3 EBD EC0-EC4 EC6
    EDC-EDF 1000-102A 103F 1050-1055 105A-105D 1061 1065-1066 106E-1070 1075-1081 108E 1780-17B3
    17D7 17DC 1950-196D 1970-1974 1980-19AB 19B0-19C9 1A20-1A54 1AA7 3041-3096 309D-309F
    A9E0-A9E4 A9E6-A9EF A9FA-A9FE AA60-AA76 AA7A AA7E-AAAF AAB1 AAB5-AAB6 AAB9-AABD AAC0 AAC2
    AADB-AADD 11700-1171A 11740-11746 1B001-1B11F 1B132 1B150-1B152")

/-! Clusters -/

def clusterCR : CharSet := .ofTable "D"

def clusterLF : CharSet := .ofTable "A"

def clusterPrepend : CharSet := .ofTable "
  600-605 6DD 70F 890-891 8E2 D4E 110BD 110CD 111C2-111C3 113D1 1193F 11941 11A3A 11A84-11A89
  11D46 11F02"

def clusterRegionalIndicator : CharSet := .ofTable "1F1E6-1F1FF"

def clusterZWJ : CharSet := .ofTable "200D"

def clusterL : CharSet := .ofTable "1100-115F A960-A97C"

def clusterV : CharSet := .ofTable "1160-11A7 D7B0-D7C6 16D63 16D67-16D6A"

def clusterT : CharSet := .ofTable "11A8-11FF D7CB-D7FB"

/-- The first syllables of each row of 28, without a final consonant. -/
def clusterLV : CharSet :=
  .ofRuns ((List.range 399).map fun i => (0xAC00 + 28 * i, 0xAC00 + 28 * i))

def clusterLVT : CharSet := (CharSet.ofTable "AC00-D7A3").diff clusterLV

def clusterExtend : CharSet := .unions [graphemeExtend, emojiModifier]

def clusterControl : CharSet := .ofTable "
  0-9 B-C E-1F 7F-9F AD 61C 180E 200B 200E-200F 2028-202E 2060-206F FEFF FFF0-FFFB 13430-1343F
  1BCA0-1BCA3 1D173-1D17A E0000-E001F E0080-E00FF E01F0-E0FFF"

def clusterSpacingMark : CharSet :=
  (CharSet.unions [spacingMark.diff clusterExtend, .ofTable "E33 EB3"]).diff (.ofTable "
  102B-102C 1038 1062-1064 1067-106D 1083 1087-108C 108F 109A-109C 1A61 1A63-1A64 AA7B AA7D
  11720-11721")

/-- Classes of characters for the boundaries of sentences, with the names they go by. -/
def sentences : List (List String × CharSet) := [
  (["at", "aterm"], sentenceATerm),
  (["cr"], sentenceCR),
  (["cl", "close"], sentenceClose),
  (["ex", "extend"], sentenceExtend),
  (["fo", "format"], sentenceFormat),
  (["lf"], sentenceLF),
  (["lo", "lower"], sentenceLower),
  (["nu", "numeric"], sentenceNumeric),
  (["le", "oletter"], sentenceOLetter),
  (["sc", "scontinue"], sentenceSContinue),
  (["st", "sterm"], sentenceSTerm),
  (["se", "sep"], sentenceSep),
  (["sp"], sentenceSp),
  (["up", "upper"], sentenceUpper)]

/-- Classes of characters for the boundaries of words, with the names they go by. -/
def words : List (List String × CharSet) := [
  (["le", "aletter"], wordALetter),
  (["cr"], wordCR),
  (["dq", "doublequote"], wordDoubleQuote),
  (["extend"], wordExtend),
  (["ex", "extendnumlet"], wordExtendNumLet),
  (["fo", "format"], wordFormat),
  (["hl", "hebrewletter"], wordHebrewLetter),
  (["ka", "katakana"], wordKatakana),
  (["lf"], wordLF),
  (["ml", "midletter"], wordMidLetter),
  (["mn", "midnum"], wordMidNum),
  (["mb", "midnumlet"], wordMidNumLet),
  (["nl", "newline"], wordNewline),
  (["nu", "numeric"], wordNumeric),
  (["ri", "regionalindicator"], wordRegionalIndicator),
  (["sq", "singlequote"], wordSingleQuote),
  (["wsegspace"], wordWSegSpace),
  (["zwj"], wordZWJ)]

/-- Classes of characters for the boundaries of clusters, with the names they go by. -/
def clusters : List (List String × CharSet) := [
  (["cr"], clusterCR),
  (["cn", "control"], clusterControl),
  (["ex", "extend"], clusterExtend),
  (["l"], clusterL),
  (["lf"], clusterLF),
  (["lv"], clusterLV),
  (["lvt"], clusterLVT),
  (["pp", "prepend"], clusterPrepend),
  (["ri", "regionalindicator"], clusterRegionalIndicator),
  (["sm", "spacingmark"], clusterSpacingMark),
  (["t"], clusterT),
  (["v"], clusterV),
  (["zwj"], clusterZWJ)]

end Reroute.Text.Break
