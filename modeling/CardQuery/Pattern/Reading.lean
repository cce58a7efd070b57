import CardQuery.Pattern.Bracket
import CardQuery.Pattern.Footprint

namespace CardQuery.Pattern

-- One alternative while it is read. A repetition applies to `last`; there is none at the start and none after
-- flags.
structure Branch where
  front : Expr := .empty
  last : Option (Part Expr) := none
  count : Nat := 0
  depth : Nat := 0
  deriving DecidableEq, Repr

namespace Branch

def joined (b : Branch) : Expr :=
  match b.last with
  | none => b.front
  | some part => .cat b.front part.body

def deepest (b : Branch) : Nat :=
  match b.last with
  | none => b.depth
  | some part => max b.depth part.depth

def push (b : Branch) (part : Part Expr) : Branch := ⟨b.joined, some part, b.count + 1, b.deepest⟩
def pushFlags (b : Branch) : Branch := ⟨b.joined, none, b.count + 1, b.deepest⟩
def close (b : Branch) : Part Expr := ⟨b.joined, if b.count ≤ 1 then b.deepest else b.deepest + 1⟩

end Branch

structure Level where
  flags : Flags
  captures : Bool := false
  closed : Option (Part Expr) := none
  branch : Branch := {}
  deriving DecidableEq, Repr

namespace Level

def push (l : Level) (part : Part Expr) : Level := { l with branch := l.branch.push part }

def alternatives (l : Level) : Part Expr :=
  match l.closed with
  | none => l.branch.close
  | some part => ⟨.alt part.body l.branch.close.body, max part.depth l.branch.close.depth⟩

def alternate (l : Level) : Level := { l with closed := some l.alternatives, branch := {} }

def close (l : Level) : Part Expr :=
  ⟨l.alternatives.body, if l.closed.isSome then l.alternatives.depth + 1 else l.alternatives.depth⟩

end Level

-- Flags set inside a group end with it and reach over its `|`.
structure Reader where
  level : Level
  outer : List Level := []
  names : List String := []
  deriving DecidableEq, Repr

def depthLimit : Nat := 250

namespace Reader

def push (r : Reader) (part : Part Expr) : Reader := { r with level := r.level.push part }

-- `ungreedy` says that the repetition is marked as lazy; a flag may turn the meaning of the mark round.
def repeatLast (r : Reader) (least : Nat) (most : Option Nat) (ungreedy : Bool) : Option Reader :=
  r.level.branch.last.map fun part =>
    let body := .repeated part.body least most (ungreedy != r.level.flags.swapGreed)
    { r with level.branch.last := some ⟨body, part.depth + 1⟩ }

def openGroup (r : Reader) (flags : Flags) (captures : Bool) : Reader :=
  { r with level := { flags := flags, captures := captures }, outer := r.level :: r.outer }

def closeGroup (r : Reader) : Option Reader :=
  match r.outer with
  | [] => none
  | parent :: outer =>
    let body := .group r.level.captures r.level.close.body
    some { r with level := parent.push ⟨body, r.level.close.depth + 1⟩, outer := outer }

end Reader

def isNameStart (c : Char) : Bool := c == '_' || Unicode.isAlphabetic c
def isNamePart (c : Char) : Bool := c == '_' || c == '.' || c == '[' || c == ']' || Unicode.isAlphanumeric c

def readName (cs : List Char) : Option (String × List Char) :=
  match cs.takeWhile (· != '>'), cs.dropWhile (· != '>') with
  | c :: name, _ :: after =>
    if isNameStart c && name.all isNamePart then some (String.ofList (c :: name), after) else none
  | _, _ => none

-- What follows an opening parenthesis. Groups that only look around are refused.
def readGroup (r : Reader) (cs : List Char) : Option (Reader × List Char) :=
  match r.level.flags.skip cs with
  | '?' :: '=' :: _ | '?' :: '!' :: _ | '?' :: '<' :: '=' :: _ | '?' :: '<' :: '!' :: _ => none
  | '?' :: 'P' :: '<' :: rest | '?' :: '<' :: rest => do
    let (name, after) ← readName rest
    if r.names.contains name then none
    else some ({ r.openGroup r.level.flags true with names := name :: r.names }, after)
  | '?' :: rest => do
    let (flags, stop, named, after) ← readFlags r.level.flags [] false false rest
    if stop = ':' then some (r.openGroup flags false, after)
    else if named then
      some ({ r with level := { r.level with flags := flags, branch := r.level.branch.pushFlags } }, after)
    else none
  | rest => some (r.openGroup r.level.flags true, rest)

-- A number below 2^32, with blanks allowed on both sides.
def readDecimal (flags : Flags) (cs : List Char) : Option (Nat × List Char) :=
  let (digits, after) := flags.takeRun Unicode.isAsciiDigit cs.length (cs.dropWhile Text.isBlank)
  let n := digits.foldl (fun total c => 10 * total + (c.toNat - 48)) 0
  if digits.isEmpty ∨ n ≥ 0x100000000 then none else some (n, flags.skip (after.dropWhile Text.isBlank))

def readCount (flags : Flags) (cs : List Char) : Option (Nat × Option Nat × List Char) := do
  let (least, after) ← readDecimal flags (flags.skip cs)
  match after with
  | '\x7d' :: after => some (least, some least, after)
  | ',' :: after =>
    match flags.skip after with
    | '\x7d' :: after => some (least, none, after)
    | after =>
      let (most, after) ← readDecimal flags after
      match after with
      | '\x7d' :: after => if least ≤ most then some (least, some most, after) else none
      | _ => none
  | _ => none

-- A question mark after a repetition asks for the shortest match first.
def readLazy : List Char → Bool × List Char
  | '?' :: rest => (true, rest)
  | cs => (false, cs)

def Reader.repeatMarked (r : Reader) (least : Nat) (most : Option Nat) (cs : List Char) :
    Option (Reader × List Char) :=
  let (ungreedy, after) := readLazy cs
  (r.repeatLast least most ungreedy).map fun r => (r, after)

def Reader.step (r : Reader) (c : Char) (rest : List Char) : Option (Reader × List Char) :=
  let flags := r.level.flags
  match c with
  | '(' => readGroup r rest
  | ')' => r.closeGroup.map fun r => (r, rest)
  | '|' => some ({ r with level := r.level.alternate }, rest)
  | '[' => (readClass flags rest).map fun (s, after) => (r.push ⟨.set s.body, s.depth⟩, after)
  | '?' => r.repeatMarked 0 (some 1) rest
  | '*' => r.repeatMarked 0 none rest
  | '+' => r.repeatMarked 1 none rest
  | '\x7b' => do
    let (least, most, after) ← readCount flags rest
    r.repeatMarked least most (flags.skip after)
  | c => do
    let (item, after) ← readPrimitive flags c rest
    some (r.push ⟨item.expr flags, 0⟩, after)

def Reader.run : Nat → Reader → List Char → Option Reader
  | 0, _, _ => none
  | fuel + 1, r, cs =>
    match r.level.flags.skip cs with
    | [] => some r
    | c :: rest => (r.step c rest).bind fun (r, after) => r.run fuel after

def readExpr (flags : Flags) (cs : List Char) : Option Expr := do
  let r ← Reader.run (cs.length + 1) { level := { flags := flags } } cs
  let whole := r.level.close
  if r.outer.isEmpty ∧ whole.depth ≤ depthLimit ∧ whole.body.fits then some whole.body else none

end CardQuery.Pattern
