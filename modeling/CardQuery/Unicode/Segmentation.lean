import CardQuery.Unicode.Property
import CardQuery.Unicode.Script

namespace CardQuery.Unicode.Segmentation

open Category RangeSet

def find? (table : List (List String × (Unit → RangeSet))) (name : String) : Option RangeSet :=
  (table.find? fun (known, _) => known.contains name).map fun (_, members) => members ()

def spacing : RangeSet := Category.union [Category.spacingMark]
def modifiers : RangeSet := ofText Listed.emojiModifier
def concatenating : RangeSet := ofText Listed.prependedConcatenationMark
def formats : RangeSet := Category.union [Category.format]
def joiner : RangeSet := range 0x200D 0x200D
def scriptSet (name : String) : RangeSet := ((Script.named? name).map Script.members).getD {}

namespace Grapheme

def otherSpacing : List String :=
  ["102B-102C 1038 1062-1064 1067-106D 1083 1087-108C 108F 109A-109C 1A61 1A63-1A64 AA7B AA7D 11720-11721"]
def controlling : RangeSet :=
  ((unions [Category.union [lineSeparator, paragraphSeparator, Category.control, Category.format],
      (Category.union [unassigned]).inter (ofText Listed.defaultIgnorable)]).diff
    (ofText ["A D 200C-200D"])).diff (concatenating.union graphemeExtendSet)
def prepending : List String :=
  ["600-605 6DD 70F 890-891 8E2 D4E 110BD 110CD 111C2-111C3 113D1 1193F 11941 11A3A 11A84-11A89 11D46 11F02"]

-- Hangul syllables; those without a final consonant come at every 28th place.
def syllables : RangeSet := range 0xAC00 0xD7A3
def openSyllables : RangeSet := ⟨(List.range 399).map fun i => (0xAC00 + 28 * i, 0xAC00 + 28 * i)⟩

def table : List (List String × (Unit → RangeSet)) := [
  (["cr"], fun _ => single '\r'), (["lf"], fun _ => single '\n'), (["control", "cn"], fun _ => controlling),
  (["extend", "ex"], fun _ => graphemeExtendSet.union modifiers), (["zwj"], fun _ => joiner),
  (["regionalindicator", "ri"], fun _ => ofText Listed.regionalIndicator),
  (["prepend", "pp"], fun _ => ofText prepending),
  (["spacingmark", "sm"], fun _ =>
    ((spacing.diff graphemeExtendSet).union (ofText ["E33 EB3"])).diff (ofText otherSpacing)),
  (["l"], fun _ => ofText ["1100-115F A960-A97C"]),
  (["v"], fun _ => ofText ["1160-11A7 D7B0-D7C6 16D63 16D67-16D6A"]),
  (["t"], fun _ => ofText ["11A8-11FF D7CB-D7FB"]),
  (["lv"], fun _ => openSyllables), (["lvt"], fun _ => syllables.diff openSyllables)]

def named? (name : String) : Option RangeSet := find? table name

end Grapheme

namespace Word

def extending : RangeSet := (unions [graphemeExtendSet, spacing, modifiers]).diff joiner
def katakana : RangeSet := (scriptSet "katakana").union (ofText ["3031-3035 309B-309C 30A0 30FC FF70"])
def hebrew : RangeSet := (scriptSet "hebrew").inter (Category.union [otherLetter])

-- Letters of scripts whose words are found by a dictionary.
def dictionaryLetters : RangeSet :=
  unions [scriptSet "thai", scriptSet "lao", scriptSet "hiragana",
    ofText [
      "1000-102A 103F 1050-1055 105A-105D 1061 1065-1066 106E-1070 1075-1081 108E 1780-17B3 17D7 17DC 1950-196D",
      "1970-1974 1980-19AB 19B0-19C9 1A20-1A54 1AA7 A9E0-A9E4 A9E6-A9EF A9FA-A9FE AA60-AA76 AA7A AA7E-AAAF AAB1",
      "AAB5-AAB6 AAB9-AABD AAC0 AAC2 AADB-AADD 11700-1171A 11740-11746"]]
def letterSet : RangeSet :=
  (alphabeticSet.diff (unions [ofText Listed.ideographic, katakana, extending, hebrew, dictionaryLetters])).union
    (ofText ["2C2-2C5 2D2-2D7 2DE-2DF 2E5-2EB 2ED 2EF-2FF 55A-55C 55E 58A 5F3 70F A708-A716 A720-A721 A789-A78A AB5B"])

def table : List (List String × (Unit → RangeSet)) := [
  (["cr"], fun _ => single '\r'), (["lf"], fun _ => single '\n'),
  (["newline", "nl"], fun _ => ofText ["B-C 85 2028-2029"]),
  (["extend"], fun _ => extending), (["zwj"], fun _ => joiner),
  (["format", "fo"], fun _ =>
    formats.diff (unions [ofText ["200B-200D"], graphemeExtendSet, concatenating])),
  (["katakana", "ka"], fun _ => katakana), (["hebrewletter", "hl"], fun _ => hebrew),
  (["aletter", "le"], fun _ => letterSet),
  (["numeric", "nu"], fun _ => unions [Category.union [decimalNumber],
    concatenating.diff (ofText ["70F"]), ofText ["66B 19DA"]]),
  (["extendnumlet", "ex"], fun _ => (Category.union [connectorPunctuation]).union (ofText ["202F"])),
  (["midletter", "ml"], fun _ => ofText ["3A B7 387 55F 5F4 2027 FE13 FE55 FF1A"]),
  (["midnum", "mn"], fun _ => ofText ["2C 3B 37E 589 60C-60D 66C 7F8 2044 FE50 FE54 FF0C FF1B"]),
  (["midnumlet", "mb"], fun _ => ofText ["2E 2018-2019 2024 FE52 FF07 FF0E"]),
  (["singlequote", "sq"], fun _ => single '\''), (["doublequote", "dq"], fun _ => single '"'),
  (["regionalindicator", "ri"], fun _ => ofText Listed.regionalIndicator),
  (["wsegspace"], fun _ => ofText ["20 1680 2000-2006 2008-200A 205F 3000"])]

def named? (name : String) : Option RangeSet := find? table name

end Word

namespace Sentence

def extending : RangeSet := unions [graphemeExtendSet, spacing, joiner]
def separators : List String := ["85 2028-2029"]
def fullStops : List String := ["2E 2024 FE52 FF0E"]
def terminals : RangeSet := (ofText Listed.sentenceTerminal).diff (ofText fullStops)

-- Georgian letters do not take part in the case of sentences.
def lowerSet : RangeSet := lowercaseSet.diff (extending.union (ofText ["10D0-10FA 10FD-10FF"]))
def upperSet : RangeSet :=
  (uppercaseSet.union (Category.union [titlecaseLetter])).diff (ofText ["1C90-1CBA 1CBD-1CBF"])

def table : List (List String × (Unit → RangeSet)) := [
  (["cr"], fun _ => single '\r'), (["lf"], fun _ => single '\n'), (["sep", "se"], fun _ => ofText separators),
  (["extend", "ex"], fun _ => extending),
  (["format", "fo"], fun _ => formats.diff (unions [ofText ["200C-200D"], graphemeExtendSet])),
  (["sp"], fun _ => blankSet.diff (unions [ofText ["A D"], ofText separators])),
  (["lower", "lo"], fun _ => lowerSet), (["upper", "up"], fun _ => upperSet),
  (["oletter", "le"], fun _ =>
    (alphabeticSet.union (ofText ["5F3"])).diff (unions [lowerSet, upperSet, extending])),
  (["numeric", "nu"], fun _ => (Category.union [decimalNumber]).union (ofText ["66B-66C 19DA"])),
  (["aterm", "at"], fun _ => ofText fullStops), (["sterm", "st"], fun _ => terminals),
  (["scontinue", "sc"], fun _ => ofText [
    "2C-2D 3A-3B 37E 55D 60C-60D 7F8 1802 1808 2013-2014 3001 FE10-FE11 FE13-FE14 FE31-FE32 FE50-FE51 FE54-FE55",
    "FE58 FE63 FF0C-FF0D FF1A-FF1B FF64"]),
  (["close", "cl"], fun _ =>
    (unions [Category.union [openPunctuation, closePunctuation, initialPunctuation, finalPunctuation],
      ofText Listed.quotationMark, ofText ["275B-2760 2E00-2E01 2E06-2E08 2E0B 1F676-1F678"]]).diff
    (unions [ofText ["5F3 FF02 FF07"], ofText fullStops, terminals]))]

def named? (name : String) : Option RangeSet := find? table name

end Sentence
end CardQuery.Unicode.Segmentation
