import CardQuery.Pattern.Expr
import CardQuery.Pattern.Flags

namespace CardQuery.Pattern

inductive Primitive where
  | literal (c : Char)
  | set (s : Unicode.RangeSet)
  | look (l : Look)
  deriving DecidableEq, Repr

def hexValue? (c : Char) : Option Nat :=
  if '0' ≤ c ∧ c ≤ '9' then some (c.toNat - 48)
  else if 'a' ≤ c ∧ c ≤ 'f' then some (c.toNat - 87)
  else if 'A' ≤ c ∧ c ≤ 'F' then some (c.toNat - 55)
  else none

def hexNumber? (cs : List Char) : Option Nat :=
  if cs.isEmpty then none
  else cs.foldl (fun total c => total.bind fun n => (hexValue? c).map (16 * n + ·)) (some 0)

def scalar? (n : Nat) : Option Char := if n.isValidChar then some (Char.ofNat n) else none

def Flags.takeExactly (flags : Flags) : Nat → List Char → Option (List Char × List Char)
  | 0, cs => some ([], cs)
  | _ + 1, [] => none
  | count + 1, c :: rest => (flags.takeExactly count (flags.skip rest)).map fun (run, after) => (c :: run, after)

def Flags.takeBraced (flags : Flags) (cs : List Char) : Option (List Char × List Char) :=
  match flags.takeRun (· != '\x7d') cs.length (flags.skip cs) with
  | (run, '\x7d' :: after) => some (run, after)
  | _ => none

def readHex (flags : Flags) (width : Nat) (cs : List Char) : Option (Char × List Char) :=
  match flags.skip cs with
  | '\x7b' :: rest => do
    let (run, after) ← flags.takeBraced rest
    let c ← scalar? (← hexNumber? run)
    some (c, flags.skip after)
  | rest => do
    let (run, after) ← flags.takeExactly width rest
    let c ← scalar? (← hexNumber? run)
    -- two digits name a byte; beyond ASCII it is a character in Unicode mode only
    if width = 2 ∧ !flags.unicode ∧ c.toNat ≥ 0x80 then none else some (c, after)

def splitAtText (mark : List Char) : List Char → Option (List Char × List Char)
  | [] => none
  | c :: rest =>
    if mark.isPrefixOf (c :: rest) then some ([], (c :: rest).drop mark.length)
    else (splitAtText mark rest).map fun (front, back) => (c :: front, back)

def readPropertyName (name : List Char) : Option (Unicode.RangeSet × Bool) :=
  match splitAtText ['!', '='] name with
  | some (property, value) => (propertyValued? (looseName property) (looseName value)).map (·, true)
  | none =>
    match (splitAtText [':'] name).or (splitAtText ['='] name) with
    | some (property, value) => (propertyValued? (looseName property) (looseName value)).map (·, false)
    | none => (propertyNamed? (looseName name)).map (·, false)

def readProperty (flags : Flags) (negated : Bool) (cs : List Char) : Option (Primitive × List Char) := do
  if !flags.unicode then none
  let (name, after) ← match flags.skip cs with
    | [] => none
    | '\\' :: _ => none
    | '\x7b' :: rest => flags.takeBraced rest
    | c :: rest => some ([c], flags.skip rest)
  let (members, unlike) ← readPropertyName name
  some (.set ((flags.foldSet members).negatedIf (negated != unlike)), after)

def shorthandSet (flags : Flags) : Char → Unicode.RangeSet
  | 'd' => if flags.unicode then Unicode.digitSet else AsciiClass.digit.members
  | 's' => if flags.unicode then Unicode.blankSet else AsciiClass.space.members
  | _ => if flags.unicode then Unicode.wordSet else AsciiClass.word.members

def isWordLookChar (c : Char) : Bool := Unicode.isAsciiLetter c || c == '-'

def wordLook? (name : List Char) : Option WordLook :=
  if name = ['s', 't', 'a', 'r', 't'] then some .start
  else if name = ['e', 'n', 'd'] then some .finish
  else if name = ['s', 't', 'a', 'r', 't', '-', 'h', 'a', 'l', 'f'] then some .startHalf
  else if name = ['e', 'n', 'd', '-', 'h', 'a', 'l', 'f'] then some .finishHalf
  else none

-- A word boundary; a brace after it names a kind of boundary unless it holds a count.
def readBoundary (flags : Flags) (cs : List Char) : Option (Primitive × List Char) :=
  match cs with
  | '\x7b' :: rest =>
    match flags.skip rest with
    | [] => none
    | c :: more =>
      if isWordLookChar c then
        match flags.takeRun isWordLookChar rest.length (c :: more) with
        | (name, '\x7d' :: after) => (wordLook? name).map fun kind => (.look (.word kind flags.unicode), after)
        | _ => none
      else some (.look (.word .boundary flags.unicode), cs)
  | _ => some (.look (.word .boundary flags.unicode), cs)

-- Any other ASCII character stands for itself after a backslash.
def isPlainEscape (c : Char) : Bool :=
  c.toNat < 0x80 && !Unicode.isAsciiLetter c && !Unicode.isAsciiDigit c && c != '<' && c != '>'

-- Back references and unknown escapes are refused.
def readEscape (flags : Flags) : List Char → Option (Primitive × List Char)
  | [] => none
  | c :: rest =>
    match c with
    | 'x' => (readHex flags 2 rest).map fun (c, after) => (.literal c, after)
    | 'u' => (readHex flags 4 rest).map fun (c, after) => (.literal c, after)
    | 'U' => (readHex flags 8 rest).map fun (c, after) => (.literal c, after)
    | 'p' => readProperty flags false rest
    | 'P' => readProperty flags true rest
    | 'd' | 's' | 'w' => some (.set (shorthandSet flags c), rest)
    | 'D' | 'S' | 'W' => (flags.negate? true (shorthandSet flags c.toLower)).map fun s => (.set s, rest)
    | 'a' => some (.literal '\x07', rest)
    | 'f' => some (.literal '\x0C', rest)
    | 't' => some (.literal '\t', rest)
    | 'n' => some (.literal '\n', rest)
    | 'r' => some (.literal '\r', rest)
    | 'v' => some (.literal '\x0B', rest)
    | 'A' => some (.look .textStart, rest)
    | 'z' => some (.look .textEnd, rest)
    | 'b' => readBoundary flags rest
    | 'B' => some (.look (.word .noBoundary flags.unicode), rest)
    | '<' => some (.look (.word .start flags.unicode), rest)
    | '>' => some (.look (.word .finish flags.unicode), rest)
    | c => if isPlainEscape c then some (.literal c, rest) else none

def dotSet (flags : Flags) : Unicode.RangeSet :=
  if flags.dotAll then .all
  else if flags.crlf then ⟨[(0, 9), (0xB, 0xC), (0xE, 0x10FFFF)]⟩
  else ⟨[(0, 9), (0xB, 0x10FFFF)]⟩

def readPrimitive (flags : Flags) (c : Char) (rest : List Char) : Option (Primitive × List Char) :=
  match c with
  | '\\' => readEscape flags rest
  | '.' => if flags.unicode then some (.set (dotSet flags), rest) else none
  | '^' =>
    some (.look (if flags.multiLine then if flags.crlf then .crlfLineStart else .lineStart else .textStart), rest)
  | '$' => some (.look (if flags.multiLine then if flags.crlf then .crlfLineEnd else .lineEnd else .textEnd), rest)
  | c => some (.literal c, rest)

def Primitive.expr (flags : Flags) : Primitive → Expr
  | literal c => .set (flags.literalSet c)
  | set s => .set s
  | look l => .look l

end CardQuery.Pattern
