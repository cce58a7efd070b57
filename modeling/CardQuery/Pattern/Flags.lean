import CardQuery.Pattern.NamedSet
import CardQuery.Text.Blank

namespace CardQuery.Pattern

structure Flags where
  ignoreCase : Bool := false
  multiLine : Bool := false
  dotAll : Bool := false
  swapGreed : Bool := false
  crlf : Bool := false
  unicode : Bool := true
  ignoreSpace : Bool := false
  deriving DecidableEq, Repr

inductive Flag where
  | ignoreCase | multiLine | dotAll | swapGreed | crlf | unicode | ignoreSpace
  deriving DecidableEq, Repr

def Flag.ofChar? : Char → Option Flag
  | 'i' => some ignoreCase
  | 'm' => some multiLine
  | 's' => some dotAll
  | 'U' => some swapGreed
  | 'R' => some crlf
  | 'u' => some unicode
  | 'x' => some ignoreSpace
  | _ => none

def Flags.put (flags : Flags) (value : Bool) : Flag → Flags
  | .ignoreCase => { flags with ignoreCase := value }
  | .multiLine => { flags with multiLine := value }
  | .dotAll => { flags with dotAll := value }
  | .swapGreed => { flags with swapGreed := value }
  | .crlf => { flags with crlf := value }
  | .unicode => { flags with unicode := value }
  | .ignoreSpace => { flags with ignoreSpace := value }

-- The flags after a group of flags, the character that ends the group, whether the group names any, and what
-- follows. `seen` holds the flags so far; `clearing` is set by a hyphen.
def readFlags (flags : Flags) (seen : List Flag) (clearing dangling : Bool) :
    List Char → Option (Flags × Char × Bool × List Char)
  | [] => none
  | c :: rest =>
    if c = ':' ∨ c = ')' then if dangling then none else some (flags, c, !seen.isEmpty, rest)
    else if c = '-' then if clearing then none else readFlags flags seen true true rest
    else match Flag.ofChar? c with
      | none => none
      | some flag =>
        if seen.contains flag then none
        else readFlags (flags.put (!clearing) flag) (flag :: seen) clearing false rest

-- Blanks, and comments from `#` to the end of the line.
def dropSpace (inComment : Bool) : List Char → List Char
  | [] => []
  | c :: rest =>
    if inComment then dropSpace (c != '\n') rest
    else if c = '#' then dropSpace true rest
    else if Text.isBlank c then dropSpace false rest
    else c :: rest

def Flags.skip (flags : Flags) (cs : List Char) : List Char :=
  if flags.ignoreSpace then dropSpace false cs else cs

-- The longest run of accepted characters, with ignored space allowed after each. `fuel` bounds its length.
def Flags.takeRun (flags : Flags) (accept : Char → Bool) : Nat → List Char → List Char × List Char
  | fuel + 1, c :: rest =>
    if accept c then
      let (run, after) := flags.takeRun accept fuel (flags.skip rest)
      (c :: run, after)
    else ([], c :: rest)
  | _, cs => ([], cs)

-- Folding comes before negation, so that a negated set stays closed under case.
def Flags.foldSet (flags : Flags) (s : Unicode.RangeSet) : Unicode.RangeSet :=
  if flags.ignoreCase then if flags.unicode then s.folded else s.asciiFolded else s

-- Outside Unicode mode sets hold ASCII only, and none may be negated.
def Flags.negate? (flags : Flags) (negated : Bool) (s : Unicode.RangeSet) : Option Unicode.RangeSet :=
  if negated && !flags.unicode then none else some (s.negatedIf negated)

def Flags.literalSet (flags : Flags) (c : Char) : Unicode.RangeSet :=
  if flags.ignoreCase ∧ flags.unicode then
    .ofRanges ((Unicode.caseOrbit c).map fun d => (d.toNat, d.toNat))
  else flags.foldSet (.single c)

end CardQuery.Pattern
