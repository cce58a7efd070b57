import CardQuery.Pattern.Form
import Std.Data.TreeMap.Basic

namespace CardQuery.Pattern

open Unicode (RangeSet)

-- States are numbered as they are made, so `states` is also the number of the next one. `branches` says that the piece
-- just counted ends in a branching state: going on from there is one more way out of it.
structure Footprint where
  states : Nat := 0
  bytes : Nat := 0
  branches : Bool := false
  deriving DecidableEq, Repr

inductive Direction where
  | forwards | backwards
  deriving DecidableEq, Repr

namespace Footprint

-- A state takes 32 bytes, a way out of a branching state 4, a range of bytes 8.
def limit : Nat := 0xA00000
def size (t : Footprint) : Nat := 32 * t.states + t.bytes
def tooLarge (t : Footprint) : Bool := t.size > limit

def make (t : Footprint) (states bytes : Nat) : Footprint := ⟨t.states + states, t.bytes + bytes, false⟩
def link (t : Footprint) : Footprint := if t.branches then ⟨t.states, t.bytes + 4, false⟩ else t
def branch (t : Footprint) (ways : Nat) : Footprint := t.make 1 (4 * ways)
def openEnd (t : Footprint) : Footprint := { t with branches := true }

-- Copies of a piece one after another; nothing is counted past the limit.
def copies (piece : Footprint → Footprint) : Nat → Footprint → Footprint
  | 0, t => t
  | count + 1, t => if t.tooLarge then t else copies piece count (piece t.link)

end Footprint

-- A hash of numbers, 64 bits wide, that looks at one number after the other.
def mix (h : UInt64) (n : Nat) : UInt64 := (h ^^^ n.toUInt64) * 0x100000001B3
def mixAll (ns : List Nat) : UInt64 := ns.foldl mix 0xCBF29CE484222325

-- A table of places with one entry each; a new entry drives out the old one.
structure Places (α : Type) where
  count : Nat
  entries : Std.TreeMap Nat (α × Nat) := {}

namespace Places

variable {α : Type} [BEq α]

def find? (p : Places α) (place : Nat) (key : α) : Option Nat :=
  match p.entries[place]? with
  | some (known, state) => if known == key then some state else none
  | none => none

def put (p : Places α) (place : Nat) (key : α) (state : Nat) : Places α :=
  { p with entries := p.entries.insert place (key, state) }

end Places

-- The states of a set read forwards. Sequences with the same start share its states; a state with the same ways out as
-- an earlier one, if that is still in its place, is that one.
structure Tree where
  footprint : Footprint
  known : Places (List (Nat × Nat × Nat))

namespace Tree

def state (t : Tree) (ways : List (Nat × Nat × Nat)) : Nat × Tree :=
  let place := (mixAll (ways.flatMap fun (first, last, target) => [first, last, target])).toNat % t.known.count
  match t.known.find? place ways with
  | some known => (known, t)
  | none =>
    let made := t.footprint.states
    (made, ⟨t.footprint.make 1 (8 * ways.length), t.known.put place ways made⟩)

-- Sequences that go on, by their first range. `depth` is the length of the longest.
def node (target : Nat) : Nat → List (List (Nat × Nat)) → Tree → Nat × Tree
  | 0, _, t => (target, t)
  | depth + 1, sequences, t =>
    let (ways, t) := (sequences.splitBy fun a b => a.head? == b.head?).foldl (fun (ways, t) group =>
      match group with
      | ((first, last) :: more) :: _ =>
        if more.isEmpty then ((first, last, target) :: ways, t)
        else
          let (next, t) := node target depth (group.map List.tail) t
          ((first, last, next) :: ways, t)
      | _ => (ways, t)) ([], t)
    t.state ways.reverse

end Tree

def backwardState (target : Nat) (t : Footprint × Places (Nat × Nat × Nat)) (range : Nat × Nat) :
    Nat × Footprint × Places (Nat × Nat × Nat) :=
  let key := (target, range.1, range.2)
  let place := (mixAll [target, range.1, range.2]).toNat % t.2.count
  match t.2.find? place key with
  | some known => (known, t)
  | none => (t.1.states, t.1.make 1 0, t.2.put place key t.1.states)

namespace Footprint

-- Read forwards, a set has one state where all its sequences end, which comes first.
def forwardSet (t : Footprint) (sequences : List (List (Nat × Nat))) : Footprint :=
  (Tree.node t.states 4 sequences ⟨t.make 1 0, { count := 10000 }⟩).2.footprint

-- Read backwards, a set branches into its sequences; those that end in the same ranges share states.
def backwardSet (t : Footprint) (sequences : List (List (Nat × Nat))) : Footprint :=
  let target := t.states + 1
  let start : Footprint × Places (Nat × Nat × Nat) := (t.make 2 0, { count := 1000 })
  (sequences.foldl (fun t sequence =>
    let (_, footprint, known) := sequence.foldl (fun (target, t) range => backwardState target t range) (target, t)
    (footprint.make 0 4, known)) start).1

-- A set of ASCII characters is one state with a state after it.
def set (d : Direction) (s : RangeSet) (t : Footprint) : Footprint :=
  if s.ranges.all fun (_, last) => last < 0x80 then t.make 2 (8 * s.ranges.length)
  else match d with
    | .forwards => t.forwardSet (sequencesOf s)
    | .backwards => t.backwardSet (sequencesOf s)

end Footprint

-- Words that end here close the group of the words before them. A second end without words between counts once at the
-- front.
def wordGroups (words : List (List Nat)) : List (List (List Nat)) :=
  match words with
  | [] :: rest => [] :: groups (rest.dropWhile List.isEmpty)
  | words => groups words
where
  groups : List (List Nat) → List (List (List Nat))
    | [] => [[]]
    | [] :: rest => [] :: groups rest
    | word :: rest =>
      match groups rest with
      | [] => [[word]]
      | group :: more => (word :: group) :: more

-- Alternatives that are all literals share the states of their common starts, within a group. `depth` is the length of
-- the longest.
def wordTree : Nat → List (List Nat) → Footprint → Footprint
  | 0, _, t => t
  | depth + 1, words, t =>
    if words.all List.isEmpty then t
    else
      let groups := wordGroups words
      let t := groups.foldl (fun t group =>
        let firsts := (group.filterMap List.head?).eraseDups
        let t := firsts.foldl (fun t first =>
          wordTree depth (group.filterMap fun word => if word.head? = some first then some word.tail else none) t) t
        if firsts.length ≤ 1 then t.make firsts.length 0 else t.make 1 (8 * firsts.length)) t
      t.branch ((groups.filter fun group => !group.isEmpty).length + (groups.length - 1))

namespace Form

def bytes (codes : List Nat) : Direction → List Nat
  | .forwards => codes.flatMap encode
  | .backwards => (codes.flatMap encode).reverse

def literal? : Form → Option (List Nat)
  | literal codes => some codes
  | _ => none

mutual

-- Counts a form after `t`, which has been linked.
def measure (d : Direction) : Form → Footprint → Footprint
  | empty, t => t.make 1 0
  | literal codes, t => t.make (codes.map encodedLength).sum 0
  | set s, t => t.set d s
  | look _, t => t.make 1 0
  | capture body, t =>
    match d with
    | .forwards => (body.measure d (t.make 1 0)).link.make 1 0
    | .backwards => body.measure d t
  | sequence parts, t => measureAll d parts t
  | choice parts, t =>
    match parts.mapM literal? with
    | some literals =>
      let words := literals.map fun codes => bytes codes d
      wordTree ((words.map List.length).foldl max 0 + 1) words (t.make 1 0)
    | none => measureEach d parts 0 t
  | repeated body least most _, t =>
    match least, most with
    | 0, some 1 => (body.measure d (t.branch 2)).link.make 1 0
    | 0, none =>
      if body.extent.least.any (· > 0) then (body.measure d (t.branch 1)).link.openEnd
      else (((body.measure d t).link.branch 2).branch 2).make 1 0
    | 1, none => ((body.measure d t).link.branch 1).openEnd
    | least, none => ((Footprint.copies (body.measure d) least t).link.branch 1).openEnd
    | least, some most =>
      let required := if least = 0 then t.make 1 0 else Footprint.copies (body.measure d) least t
      if least = most then required
      else (Footprint.copies (fun t => body.measure d (t.branch 2)) (most - least)
        { required with states := required.states + 1 }).link

def measureAll (d : Direction) : List Form → Footprint → Footprint
  | [], t => t
  | f :: rest, t => if t.tooLarge then t else measureAll d rest (f.measure d t.link)

-- Side by side. The state that branches and the one where all meet come after the second of them.
def measureEach (d : Direction) : List Form → Nat → Footprint → Footprint
  | [], _, t => t
  | f :: rest, count, t =>
    let t := (f.measure d t).link
    measureEach d rest (count + 1) (if count = 1 then t.make 2 8 else if count = 0 then t else t.make 0 4)

end

-- The whole automaton. Unless every match starts at the end of the text from which it is read, it may start anywhere,
-- which takes three states; forwards the whole match is a capture too.
def footprint (d : Direction) (f : Form) : Footprint :=
  let (l, f) : Look × Form := match d with
    | .forwards => (.textStart, f)
    | .backwards => (.textEnd, f.reversed)
  let start : Footprint := if f.opensWith l then { states := 1 } else { states := 3, bytes := 16 }
  let body := match d with
    | .forwards => capture f
    | .backwards => f
  (body.measure d start).link.make 1 0

end Form

def Expr.fits (e : Expr) : Bool :=
  let form := e.form
  !(form.footprint .forwards).tooLarge && !(form.footprint .backwards).tooLarge

end CardQuery.Pattern
