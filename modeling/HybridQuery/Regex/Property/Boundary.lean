import HybridQuery.Regex.Property.Binary
import HybridQuery.Regex.Property.Script

/-!
# Boundaries in a text

What a character means for the boundaries of graphemes, words and sentences. For each kind of
boundary some classes of characters are listed and the others follow from properties.
-/

namespace HybridQuery.Regex

/-! ## Graphemes -/

/-- Classes for graphemes that are given by their characters. -/
def listedGraphemeClasses : Catalogue :=
  [("cr", "D"),
   ("lf", "A"),
   ("l", "1100-115F A960-A97C"),
   ("t", "11A8-11FF D7CB-D7FB"),
   ("v", "1160-11A7 D7B0-D7C6 16D63 16D67-16D6A"),
   ("pp prepend",
    "600-605 6DD 70F 890-891 8E2 D4E 110BD 110CD 111C2-111C3 113D1 1193F 11941 11A3A 11A84-11A89
    11D46 11F02"),
   ("ri regionalindicator", "1F1E6-1F1FF"),
   ("zwj", "200D")]

/-- Syllables of Hangul that end in a vowel: one in 28. -/
def openSyllables : CodeSet :=
  ⟨(List.range 399).map fun i => (0xAC00 + 28 * i, 0xAC00 + 28 * i)⟩

/-- What controls the text and is not shown itself. -/
def controls : CodeSet :=
  (inCategories "zl zp cc cf" ∪ (unassigned ∩ ignorable)) \
    (.ofText "A D 200C-200D E0020-E007F" ∪ listed "pcm")

/-- Marks that stand beside a character without belonging to it. -/
def separateMarks : CodeSet :=
  .ofText
    "102B-102C 1038 1062-1064 1067-106D 1083 1087-108C 108F 109A-109C 1A61 1A63-1A64 AA7B AA7D
    11720-11721"

/-- Marks that take place of their own and belong to the character before. -/
def spacingMarks : CodeSet :=
  (inCategories "mc" \ (graphemeExtend ∪ separateMarks)) ∪ .ofText "E33 EB3"

/-- Classes for graphemes that follow from properties. -/
def derivedGraphemeClasses : List (String × CodeSet) :=
  [("cn control", controls),
   ("ex extend", graphemeExtend ∪ listed "emod"),
   ("lv", openSyllables),
   ("lvt", CodeSet.ofText "AC00-D7A3" \ openSyllables),
   ("sm spacingmark", spacingMarks)]

/-! ## Words -/

/-- Classes for words that are given by their characters. -/
def listedWordClasses : Catalogue :=
  [("cr", "D"),
   ("dq doublequote", "22"),
   ("lf", "A"),
   ("ml midletter", "3A B7 387 55F 5F4 2027 FE13 FE55 FF1A"),
   ("mn midnum", "2C 3B 37E 589 60C-60D 66C 7F8 2044 FE50 FE54 FF0C FF1B"),
   ("mb midnumlet", "2E 2018-2019 2024 FE52 FF07 FF0E"),
   ("nl newline", "B-C 85 2028-2029"),
   ("ri regionalindicator", "1F1E6-1F1FF"),
   ("sq singlequote", "27"),
   ("wsegspace", "20 1680 2000-2006 2008-200A 205F 3000"),
   ("zwj", "200D")]

/-- Signs of format that are of another class. -/
def wordSigns : CodeSet :=
  .ofText "600-605 6DD 70F 890-891 8E2 200B-200D 110BD 110CD E0020-E007F"

/-- Katakana and the signs that are used with it. -/
def katakana : CodeSet :=
  (script? "kana").getD .empty ∪ .ofText "3031-3035 309B-309C 30A0 30FC FF70"

def hebrewLetters : CodeSet :=
  (script? "hebr").getD .empty ∩ inCategories "lo"

/-- Digits and the signs that belong to numbers. -/
def wordNumerals : CodeSet :=
  inCategories "nd" ∪ .ofText "600-605 66B 6DD 890-891 8E2 19DA 110BD 110CD"

/-- Marks of all kinds. -/
def attached : CodeSet :=
  graphemeExtend ∪ inCategories "mc"

/-- Letters of scripts that are written without blanks between words. -/
def unspacedLetters : CodeSet :=
  .ofText
    "E01-E30 E32-E33 E40-E46 E81-E82 E84 E86-E8A E8C-EA3 EA5 EA7-EB0 EB2-EB3 EBD EC0-EC4 EC6
    EDC-EDF 1000-102A 103F 1050-1055 105A-105D 1061 1065-1066 106E-1070 1075-1081 108E 1780-17B3
    17D7 17DC 1950-196D 1970-1974 1980-19AB 19B0-19C9 1A20-1A54 1AA7 A9E0-A9E4 A9E6-A9EF
    A9FA-A9FE AA60-AA76 AA7A AA7E-AAAF AAB1 AAB5-AAB6 AAB9-AABD AAC0 AAC2 AADB-AADD 11700-1171A
    11740-11746"

/-- Signs that count as letters in words. -/
def letterSigns : CodeSet :=
  .ofText
    "2C2-2C5 2D2-2D7 2DE-2DF 2E5-2EB 2ED 2EF-2FF 55A-55C 55E 58A 5F3 70F A708-A716 A720-A721
    A789-A78A AB5B"

/-- Letters of words. -/
def wordLetters : CodeSet :=
  (alphabetic \ (listed "ideo" ∪ (script? "hira").getD .empty ∪ katakana ∪ attached ∪
    listed "emod" ∪ hebrewLetters ∪ unspacedLetters)) ∪ letterSigns

/-- Classes for words that follow from properties. -/
def derivedWordClasses : List (String × CodeSet) :=
  [("le aletter", wordLetters),
   ("extend", attached ∪ listed "emod"),
   ("ex extendnumlet", inCategories "pc" ∪ .ofText "202F"),
   ("fo format", inCategories "cf" \ wordSigns),
   ("hl hebrewletter", hebrewLetters),
   ("ka katakana", katakana),
   ("nu numeric", wordNumerals)]

/-! ## Sentences -/

/-- Classes for sentences that are given by their characters. -/
def listedSentenceClasses : Catalogue :=
  [("at aterm", "2E 2024 FE52 FF0E"),
   ("cr", "D"),
   ("lf", "A"),
   ("sc scontinue",
    "2C-2D 3A-3B 37E 55D 60C-60D 7F8 1802 1808 2013-2014 3001 FE10-FE11 FE13-FE14 FE31-FE32
    FE50-FE51 FE54-FE55 FE58 FE63 FF0C-FF0D FF1A-FF1B FF64"),
   ("st sterm",
    "21 3F 589 61D-61F 6D4 700-702 7F9 837 839 83D-83E 964-965 104A-104B 1362 1367-1368 166E
    1735-1736 17D4-17D5 1803 1809 1944-1945 1AA8-1AAB 1B4E-1B4F 1B5A-1B5B 1B5E-1B5F 1B7D-1B7F
    1C3B-1C3C 1C7E-1C7F 203C-203D 2047-2049 2CF9-2CFB 2E2E 2E3C 2E53-2E54 3002 A4FF A60E-A60F
    A6F3 A6F7 A876-A877 A8CE-A8CF A92F A9C8-A9C9 AA5D-AA5F AAF0-AAF1 ABEB FE12 FE15-FE16
    FE56-FE57 FF01 FF1F FF61 10A56-10A57 10F55-10F59 10F86-10F89 11047-11048 110BE-110C1
    11141-11143 111C5-111C6 111CD 111DE-111DF 11238-11239 1123B-1123C 112A9 113D4-113D5
    1144B-1144C 115C2-115C3 115C9-115D7 11641-11642 1173C-1173E 11944 11946 11A42-11A43
    11A9B-11A9C 11C41-11C42 11EF7-11EF8 11F43-11F44 16A6E-16A6F 16AF5 16B37-16B38 16B44
    16D6E-16D6F 16E98 1BC9F 1DA88"),
   ("se sep", "85 2028-2029"),
   ("sp", "9 B-C 20 A0 1680 2000-200A 202F 205F 3000")]

/-- Brackets and quotation marks. -/
def closing : CodeSet :=
  inCategories "ps pe pi pf" ∪ .ofText "22 27 275B-2760 2E00-2E01 2E06-2E08 2E0B 1F676-1F678"

/-- Small letters but for those of Georgian, whose capitals do not begin sentences. -/
def sentenceLower : CodeSet :=
  lowercase \ (graphemeExtend ∪ .ofText "10D0-10FA 10FD-10FF")

/-- Capitals but for those of Georgian, which do not begin sentences. -/
def sentenceUpper : CodeSet :=
  (uppercase ∪ inCategories "lt") \ .ofText "1C90-1CBA 1CBD-1CBF"

/-- Marks of all kinds and the sign that joins. -/
def sentenceExtend : CodeSet :=
  attached ∪ .ofText "200D"

/-- Signs of format that belong to numbers or to the character before. -/
def sentenceSigns : CodeSet :=
  .ofText "600-605 6DD 890-891 8E2 200C-200D 110BD 110CD E0020-E007F"

/-- Classes for sentences that follow from properties. -/
def derivedSentenceClasses : List (String × CodeSet) :=
  [("cl close", closing),
   ("ex extend", sentenceExtend),
   ("fo format", inCategories "cf" \ sentenceSigns),
   ("lo lower", sentenceLower),
   ("le oletter", (alphabetic ∪ .ofText "5F3") \ (sentenceLower ∪ sentenceUpper ∪ sentenceExtend)),
   ("nu numeric", wordNumerals ∪ .ofText "66C"),
   ("up upper", sentenceUpper)]

/-! ## By name -/

/-- The class with this name, out of derived and listed ones. -/
def classIn? (derived : List (String × CodeSet)) (listed : Catalogue) (name : String) :
    Option CodeSet :=
  match derived.find? fun entry => (wordList entry.1).contains name with
  | some entry => some entry.2
  | none => listed.find? name

def graphemeClass? : String → Option CodeSet :=
  classIn? derivedGraphemeClasses listedGraphemeClasses

def wordClass? : String → Option CodeSet :=
  classIn? derivedWordClasses listedWordClasses

def sentenceClass? : String → Option CodeSet :=
  classIn? derivedSentenceClasses listedSentenceClasses

end HybridQuery.Regex
