import CardQuery.Pattern.Escape

namespace CardQuery.Pattern

structure Part (α : Type) where
  body : α
  depth : Nat := 0
  deriving DecidableEq, Repr

-- Combined from left to right; none binds closer than another.
inductive SetOp where
  | inter | diff | symmDiff
  deriving DecidableEq, Repr

def SetOp.apply : SetOp → Unicode.RangeSet → Unicode.RangeSet → Unicode.RangeSet
  | inter => .inter
  | diff => .diff
  | symmDiff => .symmDiff

structure Bracket where
  negated : Bool
  pending : Option (SetOp × Part Unicode.RangeSet) := none
  items : Unicode.RangeSet := {}
  count : Nat := 0
  depth : Nat := 0
  deriving DecidableEq, Repr

namespace Bracket

def push (b : Bracket) (item : Part Unicode.RangeSet) : Bracket :=
  { b with items := b.items.union item.body, count := b.count + 1, depth := max b.depth item.depth }

def side (b : Bracket) : Part Unicode.RangeSet := ⟨b.items, if b.count ≤ 1 then b.depth else b.depth + 1⟩

def combined (flags : Flags) (b : Bracket) : Part Unicode.RangeSet :=
  match b.pending with
  | none => b.side
  | some (op, left) =>
    ⟨op.apply (flags.foldSet left.body) (flags.foldSet b.side.body), max left.depth b.side.depth + 1⟩

def operate (flags : Flags) (b : Bracket) (op : SetOp) : Bracket :=
  { negated := b.negated, pending := some (op, b.combined flags) }

def close? (flags : Flags) (b : Bracket) : Option (Part Unicode.RangeSet) :=
  let whole := b.combined flags
  (flags.negate? b.negated (flags.foldSet whole.body)).map fun s => ⟨s, whole.depth + 1⟩

-- `]` and hyphens right at the front stand for themselves, so no bracket is empty.
def start (flags : Flags) (cs : List Char) : Bracket × List Char :=
  let (negated, cs) := match flags.skip cs with
    | '^' :: rest => (true, flags.skip rest)
    | cs => (false, cs)
  let (hyphens, cs) := flags.takeRun (· == '-') cs.length cs
  let opened := hyphens.foldl (fun b c => b.push ⟨.single c, 0⟩) { negated := negated }
  match hyphens, cs with
  | [], ']' :: rest => (opened.push ⟨.single ']', 0⟩, flags.skip rest)
  | _, cs => (opened, cs)

end Bracket

-- From behind a bracket inside a bracket: `:name:]` or `:^name:]`.
def readAsciiClass : List Char → Option (AsciiClass × Bool × List Char)
  | ':' :: rest =>
    let (negated, rest) := match rest with
      | '^' :: rest => (true, rest)
      | rest => (false, rest)
    match rest.dropWhile (· != ':') with
    | ':' :: ']' :: after =>
      (AsciiClass.ofName? (String.ofList (rest.takeWhile (· != ':')))).map fun named => (named, negated, after)
    | _ => none
  | _ => none

def readItem (flags : Flags) (c : Char) (rest : List Char) : Option (Primitive × List Char) :=
  if c = '\\' then readEscape flags rest else some (.literal c, rest)

def Flags.allowsLiteral (flags : Flags) (c : Char) : Bool := flags.unicode || c.toNat < 0x80

def Primitive.item? (flags : Flags) : Primitive → Option Unicode.RangeSet
  | literal c => if flags.allowsLiteral c then some (.single c) else none
  | set s => some s
  | look _ => none

def Primitive.literal? (flags : Flags) : Primitive → Option Char
  | literal c => if flags.allowsLiteral c then some c else none
  | _ => none

def readRange (flags : Flags) (c : Char) (rest : List Char) : Option (Unicode.RangeSet × List Char) := do
  let (first, after) ← readItem flags c rest
  match flags.skip after with
  | [] => none
  | '-' :: more =>
    match flags.skip more with
    | [] => none
    | ']' :: _ | '-' :: _ => return (← first.item? flags, '-' :: more)
    | d :: more =>
      let (second, after) ← readItem flags d more
      let low ← first.literal? flags
      let high ← second.literal? flags
      if low ≤ high then return (.range low.toNat high.toNat, after) else none
  | after => return (← first.item? flags, after)

-- Reads to the end of the outermost bracket; each round takes at least one character.
def readBrackets (flags : Flags) : Nat → Bracket → List Bracket → List Char → Option (Part Unicode.RangeSet × List Char)
  | 0, _, _, _ => none
  | fuel + 1, b, outer, cs =>
    match flags.skip cs with
    | [] => none
    | '[' :: rest =>
      match readAsciiClass rest with
      | some (named, negated, after) => do
        let members ← flags.negate? negated (flags.foldSet named.members)
        readBrackets flags fuel (b.push ⟨members, 0⟩) outer after
      | none =>
        let (inner, after) := Bracket.start flags rest
        readBrackets flags fuel inner (b :: outer) after
    | ']' :: rest =>
      match b.close? flags, outer with
      | none, _ => none
      | some whole, [] => some (whole, rest)
      | some whole, parent :: outer => readBrackets flags fuel (parent.push whole) outer rest
    | '&' :: '&' :: rest => readBrackets flags fuel (b.operate flags .inter) outer rest
    | '-' :: '-' :: rest => readBrackets flags fuel (b.operate flags .diff) outer rest
    | '~' :: '~' :: rest => readBrackets flags fuel (b.operate flags .symmDiff) outer rest
    | c :: rest => do
      let (item, after) ← readRange flags c rest
      readBrackets flags fuel (b.push ⟨item, 0⟩) outer after

def readClass (flags : Flags) (cs : List Char) : Option (Part Unicode.RangeSet × List Char) :=
  let (b, after) := Bracket.start flags cs
  readBrackets flags (cs.length + 1) b [] after

end CardQuery.Pattern
