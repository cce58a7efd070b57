import CardQuery.Pattern.Encoding
import CardQuery.Pattern.Expr

namespace CardQuery.Pattern

open Unicode (RangeSet)

-- The normal form that the size of a pattern is counted on.
inductive Form where
  | empty
  | literal (codes : List Nat)
  | set (s : RangeSet)
  | look (l : Look)
  | repeated (body : Form) (least : Nat) (most : Option Nat) (lazy : Bool)
  | capture (body : Form)
  | sequence (parts : List Form)
  | choice (parts : List Form)
  deriving Repr

structure Extent where
  least : Option Nat
  most : Option Nat
  deriving DecidableEq, Repr

def both (f : Nat → Nat → Nat) : Option Nat → Option Nat → Option Nat
  | some a, some b => some (f a b)
  | _, _ => none

def Extent.exactly (length : Nat) : Extent := ⟨some length, some length⟩
def Extent.times (e : Extent) (least : Nat) (most : Option Nat) : Extent :=
  ⟨e.least.map (· * least), both (· * ·) e.most most⟩
def Extent.followedBy (a b : Extent) : Extent := ⟨both (· + ·) a.least b.least, both (· + ·) a.most b.most⟩
def Extent.orElse (a b : Extent) : Extent := ⟨both min a.least b.least, both max a.most b.most⟩

def Extent.widest : List Extent → Extent
  | [] => ⟨none, none⟩
  | e :: rest => rest.foldl Extent.orElse e

namespace Form

def nothing : Form := set {}

mutual

def extent : Form → Extent
  | empty => .exactly 0
  | literal codes => .exactly (codes.map encodedLength).sum
  | set s => ⟨s.ranges.head?.map (encodedLength ·.1), s.ranges.getLast?.map (encodedLength ·.2)⟩
  | look _ => .exactly 0
  | repeated body least most _ => body.extent.times least most
  | capture body => body.extent
  | sequence parts => (extents parts).foldl Extent.followedBy (.exactly 0)
  | choice parts => .widest (extents parts)

def extents : List Form → List Extent
  | [] => []
  | f :: rest => f.extent :: extents rest

end

mutual

-- The same form. Two captures are never the same, as each has its own number.
def alike : Form → Form → Bool
  | empty, empty => true
  | literal a, literal b => a == b
  | set a, set b => a == b
  | look a, look b => a == b
  | repeated a least most lazy, repeated b low high reluctant =>
    least == low && most == high && lazy == reluctant && a.alike b
  | sequence as, sequence bs => allAlike as bs
  | choice as, choice bs => allAlike as bs
  | _, _ => false

def allAlike : List Form → List Form → Bool
  | [], [] => true
  | a :: as, b :: bs => a.alike b && allAlike as bs
  | _, _ => false

end

mutual

def opensWith (l : Look) : Form → Bool
  | look met => met == l
  | repeated body least _ _ => least > 0 && body.opensWith l
  | capture body => body.opensWith l
  | sequence parts => sequenceOpens l parts
  | choice parts => allOpen l parts
  | _ => false

-- Parts that take no character do not hide the ones after them.
def sequenceOpens (l : Look) : List Form → Bool
  | [] => false
  | f :: rest => f.opensWith l || (f.extent.most == some 0 && sequenceOpens l rest)

def allOpen (l : Look) : List Form → Bool
  | [] => true
  | f :: rest => f.opensWith l && allOpen l rest

end

mutual

-- The same form read from its end; literals stay as they are.
def reversed : Form → Form
  | repeated body least most lazy => repeated body.reversed least most lazy
  | capture body => capture body.reversed
  | sequence parts => sequence (allReversed parts).reverse
  | choice parts => choice (allReversed parts)
  | f => f

def allReversed : List Form → List Form
  | [] => []
  | f :: rest => f.reversed :: allReversed rest

end

def ofSet (s : RangeSet) : Form :=
  match s.ranges with
  | [(first, last)] => if first = last then literal [first] else set s
  | _ => set s

def parts : Form → List Form
  | empty => []
  | sequence fs => fs
  | f => [f]

def glue : List Form → List Form
  | [] => []
  | literal codes :: rest =>
    match glue rest with
    | literal more :: rest => literal (codes ++ more) :: rest
    | rest => literal codes :: rest
  | f :: rest => f :: glue rest

def concat (forms : List Form) : Form :=
  match glue (forms.flatMap parts) with
  | [] => empty
  | [f] => f
  | fs => sequence fs

def options : Form → List Form
  | choice fs => fs
  | f => [f]

def oneCode? : Form → Option RangeSet
  | literal [code] => some (.range code code)
  | _ => none

def set? : Form → Option RangeSet
  | set s => some s
  | _ => none

def asSet? (forms : List Form) : Option RangeSet :=
  ((forms.mapM oneCode?).or (forms.mapM set?)).map RangeSet.unions

def chooseFlat (forms : List Form) : Form :=
  match forms.flatMap options with
  | [] => nothing
  | [f] => f
  | fs => match asSet? fs with
    | some s => ofSet s
    | none => choice fs

def steps? : Form → Option (List Form)
  | sequence fs => some fs
  | _ => none

def commonStart : List Form → List Form → List Form
  | a :: as, b :: bs => if a.alike b then a :: commonStart as bs else []
  | _, _ => []

-- What all alternatives start with is written once. The rests have no common start: it would belong to the start.
def choose (forms : List Form) : Form :=
  match chooseFlat forms with
  | choice fs =>
    match fs.mapM steps? with
    | some (first :: others) =>
      let start := others.foldl commonStart first
      if start.isEmpty then choice fs
      else concat (start ++ [chooseFlat ((first :: others).map fun steps => concat (steps.drop start.length))])
    | _ => choice fs
  | f => f

-- Repeating what takes no character more than once changes nothing.
def repetition (body : Form) (least : Nat) (most : Option Nat) (lazy : Bool) : Form :=
  if body.extent.most = some 0 then counted (min least 1) (some (most.elim 1 (min · 1)))
  else counted least most
where
  counted (least : Nat) (most : Option Nat) : Form :=
    if most = some 0 then empty
    else if least = 1 ∧ most = some 1 then body
    else repeated body least most lazy

end Form

def Expr.alternatives : Expr → List Form
  | empty => [.empty]
  | set s => [.ofSet s]
  | look l => [.look l]
  | cat first second => [.concat [.choose first.alternatives, .choose second.alternatives]]
  | alt left right => left.alternatives ++ [.choose right.alternatives]
  | repeated body least most lazy => [.repetition (.choose body.alternatives) least most lazy]
  | group captures body =>
    let whole := .choose body.alternatives
    [if captures then .capture whole else whole]

def Expr.form (e : Expr) : Form := .choose e.alternatives

end CardQuery.Pattern
