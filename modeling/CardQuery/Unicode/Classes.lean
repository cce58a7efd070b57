import CardQuery.Unicode.Added
import CardQuery.Unicode.Property

namespace CardQuery.Unicode

def inRanges (ranges : List (Nat × Nat)) (c : Char) : Bool :=
  ranges.any fun (first, last) => first ≤ c.toNat && c.toNat ≤ last

def isAsciiLetter (c : Char) : Bool := inRanges [(0x41, 0x5A), (0x61, 0x7A)] c
def isAsciiDigit (c : Char) : Bool := inRanges [(0x30, 0x39)] c

def digitSet : RangeSet := Category.union [.decimalNumber]

-- Letters, marks, decimal digits, connecting punctuation and joiners.
def wordSet : RangeSet :=
  RangeSet.unions [alphabeticSet, Category.union (.decimalNumber :: .connectorPunctuation :: Category.marks),
    .ofText Listed.joinControl]

def isWordChar (c : Char) : Bool :=
  if c.toNat < 0x80 then isAsciiLetter c || isAsciiDigit c || c == '_' else wordSet.contains c

def addedAlphabetic : RangeSet := .ofText Added.alphabetic
def addedNumbers : RangeSet := .ofText Added.numbers

def isAlphabetic (c : Char) : Bool :=
  if c.toNat < 0x80 then isAsciiLetter c else alphabeticSet.contains c || addedAlphabetic.contains c

def isAlphanumeric (c : Char) : Bool :=
  if c.toNat < 0x80 then isAsciiLetter c || isAsciiDigit c
  else isAlphabetic c || (category c).isNumber || addedNumbers.contains c

-- Letters without a shape of their own.
def isFiller (c : Char) : Bool := inRanges [(0x115F, 0x1160), (0x3164, 0x3164), (0xFFA0, 0xFFA0)] c

-- The halfwidth sound marks stand on their own although they extend a grapheme.
def isHalfwidthMark (c : Char) : Bool := inRanges [(0xFF9E, 0xFF9F)] c

def otherExtending : RangeSet := .ofText Listed.otherGraphemeExtend
def addedCharacters : RangeSet := .ofText Added.characters
def addedMarks : RangeSet := .ofText Added.marks

def attaches (c : Char) : Bool :=
  category c == .nonspacingMark || category c == .enclosingMark ||
    (otherExtending.contains c && !isHalfwidthMark c)

-- Visible on its own: no control, format, private or unassigned character, no separator but the space, no filler,
-- and nothing that attaches to the character before it.
def isPrintable (c : Char) : Bool :=
  if c.toNat < 0x80 then 0x20 ≤ c.toNat && c.toNat < 0x7F
  else if addedCharacters.contains c then !addedMarks.contains c
  else !(category c).isOther && !(category c).isSeparator && !isFiller c && !attaches c

end CardQuery.Unicode
