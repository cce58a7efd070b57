import CardQuery.Pattern.NamedSet

namespace CardQuery.Pattern

inductive WordLook where
  | boundary | noBoundary | start | finish | startHalf | finishHalf
  deriving DecidableEq, Repr

inductive Look where
  | textStart | textEnd
  | lineStart | lineEnd
  | crlfLineStart | crlfLineEnd
  | word (kind : WordLook) (unicode : Bool)
  deriving DecidableEq, Repr

inductive Expr where
  | empty
  | set (s : Unicode.RangeSet)
  | look (l : Look)
  | cat (first second : Expr)
  | alt (left right : Expr)
  | repeated (body : Expr) (least : Nat) (most : Option Nat) (lazy : Bool)
  | group (captures : Bool) (body : Expr)
  deriving DecidableEq, Repr

def charAt (subject : Array Char) (i : Nat) : Option Char := subject[i]?

def charBefore (subject : Array Char) : Nat → Option Char
  | 0 => none
  | i + 1 => subject[i]?

namespace WordLook

def holds (kind : WordLook) (before after : Bool) : Bool :=
  match kind with
  | boundary => before != after
  | noBoundary => before == after
  | start => !before && after
  | finish => before && !after
  | startHalf => !before
  | finishHalf => !after

end WordLook

namespace Look

def isWord (unicode : Bool) (c : Char) : Bool :=
  if unicode then Unicode.isWordChar c else Unicode.inRanges AsciiClass.word.ranges c

def holds (subject : Array Char) (l : Look) (i : Nat) : Bool :=
  let before := charBefore subject i
  let after := charAt subject i
  match l with
  | textStart => i == 0
  | textEnd => i == subject.size
  | lineStart => i == 0 || before == some '\n'
  | lineEnd => i == subject.size || after == some '\n'
  | crlfLineStart => i == 0 || before == some '\n' || (before == some '\r' && after != some '\n')
  | crlfLineEnd => i == subject.size || after == some '\r' || (after == some '\n' && before != some '\r')
  | word kind unicode => kind.holds (before.any (isWord unicode)) (after.any (isWord unicode))

end Look

def bitsWhere (p : Nat → Bool) : Nat → Nat
  | 0 => 0
  | count + 1 => if p count then bitsWhere p count ||| (1 <<< count) else bitsWhere p count

-- Stops early once a round changes nothing: the rounds left would change nothing either.
def rounds (f : Nat → Nat) : Nat → Nat → Nat
  | 0, s => s
  | count + 1, s => let next := f s; if next = s then s else rounds f count next

-- From the positions where a match may start to those where it can end, both as the bits of a number.
def reach (subject : Array Char) : Expr → Nat → Nat
  | .empty, starts => starts
  | .set s, starts => (starts &&& bitsWhere (fun i => (charAt subject i).any s.contains) subject.size) <<< 1
  | .look l, starts => starts &&& bitsWhere (l.holds subject) (subject.size + 1)
  | .cat first second, starts => reach subject second (reach subject first starts)
  | .alt left right, starts => reach subject left starts ||| reach subject right starts
  | .group _ body, starts => reach subject body starts
  | .repeated body least most _, starts =>
    let required := rounds (reach subject body) least starts
    let grow := fun s => s ||| reach subject body s
    match most with
    | none => rounds grow (subject.size + 1) required
    | some most => rounds grow (most - least) required

def Expr.isMatch (e : Expr) (text : String) : Bool :=
  let subject := text.toList.toArray
  reach subject e (bitsWhere (fun _ => true) (subject.size + 1)) != 0

theorem testBit_bitsWhere (p : Nat → Bool) (count i : Nat) :
    (bitsWhere p count).testBit i = (decide (i < count) && p i) := by
  induction count with
  | zero => simp [bitsWhere]
  | succ count ih =>
    unfold bitsWhere
    by_cases last : i = count
    · subst last
      split <;> simp_all [Nat.one_shiftLeft]
    · have below : i < count + 1 ↔ i < count := by omega
      rw [decide_eq_decide.mpr below, ← ih]
      split
      · simp [Nat.one_shiftLeft, Ne.symm last]
      · rfl

end CardQuery.Pattern
