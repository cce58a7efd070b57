namespace CardQuery.Unicode

-- Ranges ascend and do not overlap; U+D7FF and U+E000 are neighbours.
structure RangeSet where
  ranges : List (Nat × Nat) := []
  deriving DecidableEq, Repr

namespace RangeSet

def containsCode (s : RangeSet) (code : Nat) : Bool := s.ranges.any fun (first, last) => first ≤ code && code ≤ last
def contains (s : RangeSet) (c : Char) : Bool := s.containsCode c.toNat

def range (first last : Nat) : RangeSet := ⟨[(first, last)]⟩
def single (c : Char) : RangeSet := range c.toNat c.toNat
def all : RangeSet := range 0 0x10FFFF
def ascii : RangeSet := range 0 0x7F

-- Joins ranges that touch or overlap; they come in the order of their first code points.
def join : List (Nat × Nat) → List (Nat × Nat)
  | [] => []
  | entry :: rest => joinFrom entry rest
where
  joinFrom : Nat × Nat → List (Nat × Nat) → List (Nat × Nat)
    | entry, [] => [entry]
    | (first, last), (low, high) :: rest =>
      if low ≤ last + 1 then joinFrom (first, max last high) rest else (first, last) :: joinFrom (low, high) rest

-- Both lists in the order of the first code points; `fuel` is the number of ranges left.
def interleave : Nat → List (Nat × Nat) → List (Nat × Nat) → List (Nat × Nat)
  | fuel + 1, a :: as, b :: bs =>
    if a.1 ≤ b.1 then a :: interleave fuel as (b :: bs) else b :: interleave fuel (a :: as) bs
  | _, [], bs => bs
  | _, as, _ => as

def union (s t : RangeSet) : RangeSet := ⟨join (interleave (s.ranges.length + t.ranges.length) s.ranges t.ranges)⟩

def unions (sets : List RangeSet) : RangeSet := sets.foldl union {}

def ofRanges (ranges : List (Nat × Nat)) : RangeSet := unions (ranges.map fun (first, last) => range first last)

def meet : Nat → List (Nat × Nat) → List (Nat × Nat) → List (Nat × Nat)
  | fuel + 1, a :: as, b :: bs =>
    let rest := if a.2 < b.2 then meet fuel as (b :: bs) else meet fuel (a :: as) bs
    if max a.1 b.1 ≤ min a.2 b.2 then (max a.1 b.1, min a.2 b.2) :: rest else rest
  | _, _, _ => []

def inter (s t : RangeSet) : RangeSet := ⟨meet (s.ranges.length + t.ranges.length) s.ranges t.ranges⟩

def next (code : Nat) : Nat := if code = 0xD7FF then 0xE000 else code + 1
def previous (code : Nat) : Nat := if code = 0xE000 then 0xD7FF else code - 1

-- What lies before, between and after the ranges. Between ranges that are neighbours across the surrogates, the two
-- ends of the gap stand in the wrong order.
def gaps (s : RangeSet) : List (Nat × Nat) :=
  match s.ranges with
  | [] => [(0, 0x10FFFF)]
  | (first, last) :: rest => if first = 0 then after last rest else (0, previous first) :: after last rest
where
  after : Nat → List (Nat × Nat) → List (Nat × Nat)
    | last, [] => if last < 0x10FFFF then [(next last, 0x10FFFF)] else []
    | last, (low, high) :: rest => (next last, previous low) :: after high rest

-- A gap whose ends stand in the wrong order counts as holding both of them.
def complement (s : RangeSet) : RangeSet := ⟨s.gaps.map fun (low, high) => (min low high, max low high)⟩

def negatedIf (negated : Bool) (s : RangeSet) : RangeSet := if negated then s.complement else s

def diff (s t : RangeSet) : RangeSet := s.inter ⟨t.gaps.filter fun (low, high) => low ≤ high⟩

def symmDiff (s t : RangeSet) : RangeSet := (s.union t).diff (s.inter t)

def hexValue (c : Char) : Nat := if c ≤ '9' then c.toNat - 48 else c.toNat - 55
def readCode (digits : String) : Nat := digits.toList.foldl (fun n c => 16 * n + hexValue c) 0

def readEntry (entry : String) : List (Nat × Nat) :=
  match entry.splitOn "-", entry.splitOn ":" with
  | [first, last], _ => [(readCode first, readCode last)]
  | _, [first, last] =>
    let first := readCode first
    (List.range ((readCode last - first) / 2 + 1)).map fun i => (first + 2 * i, first + 2 * i)
  | _, _ => [(readCode entry, readCode entry)]

def ofText (lines : List String) : RangeSet := ⟨join (lines.flatMap fun line => (line.splitOn " ").flatMap readEntry)⟩

theorem contains_single (c d : Char) : (single c).contains d = (c == d) := by
  have same : (c.toNat ≤ d.toNat ∧ d.toNat ≤ c.toNat) ↔ c = d := by
    rw [← Nat.le_antisymm_iff, Char.toNat_inj]
  simp [single, range, contains, containsCode, ← Bool.decide_and, same, BEq.beq]

end RangeSet
end CardQuery.Unicode
