import CardQuery.Unicode.Category
import CardQuery.Unicode.Listed
import CardQuery.Text.Blank

namespace CardQuery.Unicode

inductive Property where
  | asciiHexDigit | alphabetic | bidiControl | bidiMirrored | caseIgnorable | cased
  | changesWhenCasefolded | changesWhenCasemapped | changesWhenLowercased | changesWhenTitlecased
  | changesWhenUppercased | dash | defaultIgnorable | deprecated | diacritic
  | emoji | emojiComponent | emojiModifier | emojiModifierBase | emojiPresentation | extendedPictographic
  | extender | graphemeBase | graphemeExtend | graphemeLink | hexDigit | hyphen
  | idCompatMathContinue | idCompatMathStart | idContinue | idStart
  | idsBinaryOperator | idsTrinaryOperator | idsUnaryOperator | ideographic | joinControl
  | logicalOrderException | lowercase | math | modifierCombiningMark | noncharacter
  | otherAlphabetic | otherDefaultIgnorable | otherGraphemeExtend | otherIdContinue | otherIdStart
  | otherLowercase | otherMath | otherUppercase | patternSyntax | patternWhiteSpace
  | prependedConcatenationMark | quotationMark | radical | regionalIndicator | sentenceTerminal | softDotted
  | terminalPunctuation | unifiedIdeograph | uppercase | variationSelector | whiteSpace | xidContinue | xidStart
  deriving DecidableEq, Repr

namespace Property

def names : List (List String × Property) := [
  (["asciihexdigit", "ahex"], asciiHexDigit), (["alphabetic", "alpha"], alphabetic),
  (["bidicontrol", "bidic"], bidiControl), (["bidimirrored", "bidim"], bidiMirrored),
  (["caseignorable", "ci"], caseIgnorable), (["cased"], cased),
  (["changeswhencasefolded", "cwcf"], changesWhenCasefolded),
  (["changeswhencasemapped", "cwcm"], changesWhenCasemapped),
  (["changeswhenlowercased", "cwl"], changesWhenLowercased),
  (["changeswhentitlecased", "cwt"], changesWhenTitlecased),
  (["changeswhenuppercased", "cwu"], changesWhenUppercased),
  (["dash"], dash), (["defaultignorablecodepoint", "di"], defaultIgnorable), (["deprecated", "dep"], deprecated),
  (["diacritic", "dia"], diacritic), (["emoji"], emoji), (["emojicomponent", "ecomp"], emojiComponent),
  (["emojimodifier", "emod"], emojiModifier), (["emojimodifierbase", "ebase"], emojiModifierBase),
  (["emojipresentation", "epres"], emojiPresentation), (["extendedpictographic", "extpict"], extendedPictographic),
  (["extender", "ext"], extender), (["graphemebase", "grbase"], graphemeBase),
  (["graphemeextend", "grext"], graphemeExtend), (["graphemelink", "grlink"], graphemeLink),
  (["hexdigit", "hex"], hexDigit), (["hyphen"], hyphen),
  (["idcompatmathcontinue"], idCompatMathContinue), (["idcompatmathstart"], idCompatMathStart),
  (["idcontinue", "idc"], idContinue), (["idstart", "ids"], idStart),
  (["idsbinaryoperator", "idsb"], idsBinaryOperator), (["idstrinaryoperator", "idst"], idsTrinaryOperator),
  (["idsunaryoperator", "idsu"], idsUnaryOperator), (["ideographic", "ideo"], ideographic),
  (["joincontrol", "joinc"], joinControl), (["logicalorderexception", "loe"], logicalOrderException),
  (["lowercase", "lower"], lowercase), (["math"], math), (["modifiercombiningmark", "mcm"], modifierCombiningMark),
  (["noncharactercodepoint", "nchar"], noncharacter), (["otheralphabetic", "oalpha"], otherAlphabetic),
  (["otherdefaultignorablecodepoint", "odi"], otherDefaultIgnorable),
  (["othergraphemeextend", "ogrext"], otherGraphemeExtend), (["otheridcontinue", "oidc"], otherIdContinue),
  (["otheridstart", "oids"], otherIdStart), (["otherlowercase", "olower"], otherLowercase),
  (["othermath", "omath"], otherMath), (["otheruppercase", "oupper"], otherUppercase),
  (["patternsyntax", "patsyn"], patternSyntax), (["patternwhitespace", "patws"], patternWhiteSpace),
  (["prependedconcatenationmark", "pcm"], prependedConcatenationMark), (["quotationmark", "qmark"], quotationMark),
  (["radical"], radical), (["regionalindicator", "ri"], regionalIndicator),
  (["sentenceterminal", "sterm"], sentenceTerminal), (["softdotted", "sd"], softDotted),
  (["terminalpunctuation", "term"], terminalPunctuation), (["unifiedideograph", "uideo"], unifiedIdeograph),
  (["uppercase", "upper"], uppercase), (["variationselector", "vs"], variationSelector),
  (["whitespace", "wspace", "space"], whiteSpace), (["xidcontinue", "xidc"], xidContinue),
  (["xidstart", "xids"], xidStart)]

def named? (name : String) : Option Property := (names.find? fun (known, _) => known.contains name).map (·.2)

end Property

open Category RangeSet

def lowercaseSet : RangeSet := (Category.union [lowercaseLetter]).union (ofText Listed.otherLowercase)
def uppercaseSet : RangeSet := (Category.union [uppercaseLetter]).union (ofText Listed.otherUppercase)

def alphabeticSet : RangeSet :=
  unions [Category.union (letterNumber :: letters), ofText Listed.otherLowercase, ofText Listed.otherUppercase,
    ofText Listed.otherAlphabetic]

def graphemeExtendSet : RangeSet :=
  (Category.union [nonspacingMark, enclosingMark]).union (ofText Listed.otherGraphemeExtend)

def patternReserved : RangeSet := (ofText Listed.patternSyntax).union (ofText Listed.patternWhiteSpace)

def idStartSet : RangeSet :=
  ((Category.union (letterNumber :: letters)).union (ofText Listed.otherIdStart)).diff patternReserved

def idContinueSet : RangeSet :=
  (unions [idStartSet, Category.union [nonspacingMark, Category.spacingMark, decimalNumber, connectorPunctuation],
    ofText Listed.otherIdContinue]).diff patternReserved

-- Marks, format characters and modifiers, and what stands inside words.
def caseIgnorableSet : RangeSet :=
  (Category.union [nonspacingMark, enclosingMark, Category.format, modifierLetter, modifierSymbol]).union
    (ofText ["27 2E 3A B7 387 55F 5F4 2018-2019 2024 2027 FE13 FE52 FE55 FF07 FF0E FF1A"])

def blankSet : RangeSet := ⟨Text.blankRanges⟩

def Property.members : Property → RangeSet
  | asciiHexDigit => ofText Listed.asciiHexDigit
  | alphabetic => alphabeticSet
  | bidiControl => ofText Listed.bidiControl
  | bidiMirrored => ofText Listed.bidiMirrored
  | caseIgnorable => caseIgnorableSet
  | cased => unions [lowercaseSet, uppercaseSet, Category.union [titlecaseLetter]]
  | changesWhenCasefolded => ofText Listed.changesWhenCasefolded
  | changesWhenCasemapped => ofText Listed.changesWhenCasemapped
  | changesWhenLowercased => ofText Listed.changesWhenLowercased
  | changesWhenTitlecased => ofText Listed.changesWhenTitlecased
  | changesWhenUppercased => ofText Listed.changesWhenUppercased
  | dash => ofText Listed.dash
  | defaultIgnorable => ofText Listed.defaultIgnorable
  | deprecated => ofText Listed.deprecated
  | diacritic => ofText Listed.diacritic
  | emoji => ofText Listed.emoji
  | emojiComponent => ofText Listed.emojiComponent
  | emojiModifier => ofText Listed.emojiModifier
  | emojiModifierBase => ofText Listed.emojiModifierBase
  | emojiPresentation => ofText Listed.emojiPresentation
  | extendedPictographic => ofText Listed.extendedPictographic
  | extender => ofText Listed.extender
  | graphemeBase =>
    ((Category.union [control, Category.format, privateUse, unassigned, lineSeparator, paragraphSeparator]).union
      graphemeExtendSet).complement
  | graphemeExtend => graphemeExtendSet
  | graphemeLink => ofText Listed.graphemeLink
  | hexDigit => ofText Listed.hexDigit
  | hyphen => ofText Listed.hyphen
  | idCompatMathContinue => (ofText Listed.idCompatMathStart).union (ofText Listed.idCompatMathMore)
  | idCompatMathStart => ofText Listed.idCompatMathStart
  | idContinue => idContinueSet
  | idStart => idStartSet
  | idsBinaryOperator => ofText Listed.idsBinaryOperator
  | idsTrinaryOperator => ofText Listed.idsTrinaryOperator
  | idsUnaryOperator => ofText Listed.idsUnaryOperator
  | ideographic => ofText Listed.ideographic
  | joinControl => ofText Listed.joinControl
  | logicalOrderException => ofText Listed.logicalOrderException
  | lowercase => lowercaseSet
  | math => (Category.union [mathSymbol]).union (ofText Listed.otherMath)
  | modifierCombiningMark => ofText Listed.modifierCombiningMark
  | noncharacter => ofText Listed.noncharacter
  | otherAlphabetic => ofText Listed.otherAlphabetic
  | otherDefaultIgnorable => ofText Listed.otherDefaultIgnorable
  | otherGraphemeExtend => ofText Listed.otherGraphemeExtend
  | otherIdContinue => ofText Listed.otherIdContinue
  | otherIdStart => ofText Listed.otherIdStart
  | otherLowercase => ofText Listed.otherLowercase
  | otherMath => ofText Listed.otherMath
  | otherUppercase => ofText Listed.otherUppercase
  | patternSyntax => ofText Listed.patternSyntax
  | patternWhiteSpace => ofText Listed.patternWhiteSpace
  | prependedConcatenationMark => ofText Listed.prependedConcatenationMark
  | quotationMark => ofText Listed.quotationMark
  | radical => ofText Listed.radical
  | regionalIndicator => ofText Listed.regionalIndicator
  | sentenceTerminal => ofText Listed.sentenceTerminal
  | softDotted => ofText Listed.softDotted
  | terminalPunctuation => ofText Listed.terminalPunctuation
  | unifiedIdeograph => ofText Listed.unifiedIdeograph
  | uppercase => uppercaseSet
  | variationSelector => ofText Listed.variationSelector
  | whiteSpace => blankSet
  | xidContinue => idContinueSet.diff (ofText Listed.notXidContinue)
  | xidStart => idStartSet.diff (ofText Listed.notXidStart)

end CardQuery.Unicode
