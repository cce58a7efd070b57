import CardQuery.Unicode.CategoryRuns
import CardQuery.Unicode.RangeSet

namespace CardQuery.Unicode

inductive Category where
  | uppercaseLetter | lowercaseLetter | titlecaseLetter | modifierLetter | otherLetter
  | nonspacingMark | spacingMark | enclosingMark
  | decimalNumber | letterNumber | otherNumber
  | connectorPunctuation | dashPunctuation | openPunctuation | closePunctuation
  | initialPunctuation | finalPunctuation | otherPunctuation
  | mathSymbol | currencySymbol | modifierSymbol | otherSymbol
  | spaceSeparator | lineSeparator | paragraphSeparator
  | control | format | privateUse | unassigned
  deriving DecidableEq, Repr

namespace Category

def all : Array Category := #[
  uppercaseLetter, lowercaseLetter, titlecaseLetter, modifierLetter, otherLetter,
  nonspacingMark, spacingMark, enclosingMark,
  decimalNumber, letterNumber, otherNumber,
  connectorPunctuation, dashPunctuation, openPunctuation, closePunctuation,
  initialPunctuation, finalPunctuation, otherPunctuation,
  mathSymbol, currencySymbol, modifierSymbol, otherSymbol,
  spaceSeparator, lineSeparator, paragraphSeparator,
  control, format, privateUse, unassigned]

def isLetter (k : Category) : Bool :=
  k matches uppercaseLetter | lowercaseLetter | titlecaseLetter | modifierLetter | otherLetter
def isMark (k : Category) : Bool := k matches nonspacingMark | spacingMark | enclosingMark
def isNumber (k : Category) : Bool := k matches decimalNumber | letterNumber | otherNumber
def isSeparator (k : Category) : Bool := k matches spaceSeparator | lineSeparator | paragraphSeparator
def isOther (k : Category) : Bool := k matches control | format | privateUse | unassigned

-- Names are written here as they are compared: lower case, without separators.
def names : List (List String × List Category) := [
  (["lu", "uppercaseletter"], [uppercaseLetter]), (["ll", "lowercaseletter"], [lowercaseLetter]),
  (["lt", "titlecaseletter"], [titlecaseLetter]), (["lm", "modifierletter"], [modifierLetter]),
  (["lo", "otherletter"], [otherLetter]),
  (["lc", "casedletter"], [uppercaseLetter, lowercaseLetter, titlecaseLetter]),
  (["l", "letter"], [uppercaseLetter, lowercaseLetter, titlecaseLetter, modifierLetter, otherLetter]),
  (["mn", "nonspacingmark"], [nonspacingMark]), (["mc", "spacingmark"], [spacingMark]),
  (["me", "enclosingmark"], [enclosingMark]),
  (["m", "mark", "combiningmark"], [nonspacingMark, spacingMark, enclosingMark]),
  (["nd", "decimalnumber", "digit"], [decimalNumber]), (["nl", "letternumber"], [letterNumber]),
  (["no", "othernumber"], [otherNumber]), (["n", "number"], [decimalNumber, letterNumber, otherNumber]),
  (["pc", "connectorpunctuation"], [connectorPunctuation]), (["pd", "dashpunctuation"], [dashPunctuation]),
  (["ps", "openpunctuation"], [openPunctuation]), (["pe", "closepunctuation"], [closePunctuation]),
  (["pi", "initialpunctuation"], [initialPunctuation]), (["pf", "finalpunctuation"], [finalPunctuation]),
  (["po", "otherpunctuation"], [otherPunctuation]),
  (["p", "punctuation", "punct"], [connectorPunctuation, dashPunctuation, openPunctuation, closePunctuation,
    initialPunctuation, finalPunctuation, otherPunctuation]),
  (["sm", "mathsymbol"], [mathSymbol]), (["sc", "currencysymbol"], [currencySymbol]),
  (["sk", "modifiersymbol"], [modifierSymbol]), (["so", "othersymbol"], [otherSymbol]),
  (["s", "symbol"], [mathSymbol, currencySymbol, modifierSymbol, otherSymbol]),
  (["zs", "spaceseparator"], [spaceSeparator]), (["zl", "lineseparator"], [lineSeparator]),
  (["zp", "paragraphseparator"], [paragraphSeparator]),
  (["z", "separator"], [spaceSeparator, lineSeparator, paragraphSeparator]),
  (["cc", "control", "cntrl"], [control]), (["cf", "format"], [format]),
  (["co", "privateuse"], [privateUse]), (["cn", "unassigned"], [unassigned]),
  (["c", "other"], [control, format, privateUse, unassigned])]

def named? (name : String) : Option (List Category) :=
  (names.find? fun (known, _) => known.contains name).map (·.2)

def letters : List Category := [uppercaseLetter, lowercaseLetter, titlecaseLetter, modifierLetter, otherLetter]
def marks : List Category := [nonspacingMark, spacingMark, enclosingMark]

-- The runs of some categories; a run ends before the next one.
def runsOf (allowed : List Category) : List Nat → List (Nat × Nat)
  | [] => []
  | entry :: rest =>
    let last := match rest with
      | [] => 0x10FFFF
      | next :: _ => next / 256 - 1
    if allowed.contains (all.getD (entry % 256) unassigned) then (entry / 256, last) :: runsOf allowed rest
    else runsOf allowed rest

def union (allowed : List Category) : RangeSet := ⟨RangeSet.join (runsOf allowed categoryRuns.toList)⟩

end Category

-- Bisection: the entry at `low` starts at or before the code point, the entry at `high` after it.
def findRun (runs : Array Nat) (code : Nat) : Nat → Nat → Nat → Nat
  | 0, low, _ => low
  | fuel + 1, low, high =>
    if high ≤ low + 1 then low
    else
      let middle := (low + high) / 2
      if runs[middle]?.any (· / 256 ≤ code) then findRun runs code fuel middle high
      else findRun runs code fuel low middle

def category (c : Char) : Category :=
  let size := categoryRuns.size
  let entry := categoryRuns.getD (findRun categoryRuns c.toNat size 0 size) 0
  Category.all.getD (entry % 256) .unassigned

end CardQuery.Unicode
