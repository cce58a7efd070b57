import CardQuery.Pattern
import Mathlib.Logic.Function.Iterate

namespace CardQuery.Pattern

def Times (step : Nat → Nat → Prop) : Nat → Nat → Nat → Prop
  | 0, i, j => j = i
  | count + 1, i, k => ∃ j, step i j ∧ Times step count j k

-- The expression takes the characters between the first position and the second. A count whose bounds are crossed,
-- which no pattern has, stands for its lower bound.
def Takes (subject : Array Char) : Expr → Nat → Nat → Prop
  | .empty, i, j => j = i
  | .set s, i, j => j = i + 1 ∧ ∃ c, charAt subject i = some c ∧ s.contains c = true
  | .look l, i, j => j = i ∧ i ≤ subject.size ∧ l.holds subject i = true
  | .cat first second, i, k => ∃ j, Takes subject first i j ∧ Takes subject second j k
  | .alt left right, i, j => Takes subject left i j ∨ Takes subject right i j
  | .group _ body, i, j => Takes subject body i j
  | .repeated body least most _, i, j =>
    ∃ count, least ≤ count ∧ (∀ bound ∈ most, count ≤ max least bound) ∧ Times (Takes subject body) count i j

def Expr.TakesAll (e : Expr) (text : String) : Prop := Takes text.toList.toArray e 0 text.toList.toArray.size

section Times
variable {step : Nat → Nat → Prop}

theorem times_add {a b i k : Nat} : Times step (a + b) i k ↔ ∃ j, Times step a i j ∧ Times step b j k := by
  induction a generalizing i with
  | zero => simp [Times]
  | succ a ih =>
    rw [Nat.add_right_comm]
    simp only [Times, ih]
    constructor
    · intro path
      obtain ⟨m, first, j, front, back⟩ := path
      exact ⟨j, ⟨m, first, front⟩, back⟩
    · intro path
      obtain ⟨j, ⟨m, first, front⟩, back⟩ := path
      exact ⟨m, first, j, front, back⟩

-- Steps that may also stand still are fewer steps.
theorem times_or_stay {count i k : Nat} :
    Times (fun i j => j = i ∨ step i j) count i k ↔ ∃ fewer ≤ count, Times step fewer i k := by
  induction count generalizing i with
  | zero => simp [Times]
  | succ count ih =>
    simp only [Times, ih]
    constructor
    · intro path
      obtain ⟨j, rfl | first, fewer, bound, rest⟩ := path
      · exact ⟨fewer, by omega, rest⟩
      · exact ⟨fewer + 1, by omega, j, first, rest⟩
    · intro path
      obtain ⟨fewer, bound, rest⟩ := path
      cases fewer with
      | zero => exact ⟨i, .inl rfl, 0, by omega, rest⟩
      | succ fewer =>
        obtain ⟨j, first, rest⟩ := rest
        exact ⟨j, .inr first, fewer, by omega, rest⟩

theorem times_le (forwards : ∀ i j, step i j → i ≤ j) {count i k : Nat} (path : Times step count i k) : i ≤ k := by
  induction count generalizing i with
  | zero => exact Nat.le_of_eq path.symm
  | succ count ih =>
    obtain ⟨j, first, rest⟩ := path
    exact Nat.le_trans (forwards i j first) (ih rest)

theorem times_inside {size : Nat} (forwards : ∀ i j, step i j → i ≤ j) (inside : ∀ i j, step i j → i < j → j ≤ size)
    {count i k : Nat} (path : Times step count i k) (onwards : i < k) : k ≤ size := by
  induction count generalizing i with
  | zero =>
    obtain rfl : k = i := path
    exact absurd onwards (Nat.lt_irrefl k)
  | succ count ih =>
    obtain ⟨j, first, rest⟩ := path
    rcases Nat.eq_or_lt_of_le (times_le forwards rest) with rfl | later
    · exact inside i j first onwards
    · exact ih rest later

-- Steps that take nothing can be left out, so no more are needed than there are characters between.
theorem times_short (forwards : ∀ i j, step i j → i ≤ j) {count i k : Nat} (path : Times step count i k) :
    ∃ fewer ≤ k - i, Times step fewer i k := by
  induction count generalizing i with
  | zero => exact ⟨0, Nat.zero_le _, path⟩
  | succ count ih =>
    obtain ⟨j, first, rest⟩ := path
    obtain ⟨fewer, bound, short⟩ := ih rest
    rcases Nat.eq_or_lt_of_le (forwards i j first) with rfl | onwards
    · exact ⟨fewer, bound, short⟩
    · have reached := times_le forwards rest
      exact ⟨fewer + 1, by omega, j, first, short⟩

end Times

section Bounds
variable {subject : Array Char}

theorem takes_le {e : Expr} {i j : Nat} (taken : Takes subject e i j) : i ≤ j := by
  induction e generalizing i j with
  | empty => exact Nat.le_of_eq taken.symm
  | set s => exact Nat.le_of_lt (by rw [taken.1]; exact Nat.lt_succ_self i)
  | look l => exact Nat.le_of_eq taken.1.symm
  | cat first second ihFirst ihSecond =>
    obtain ⟨m, left, right⟩ := taken
    exact Nat.le_trans (ihFirst left) (ihSecond right)
  | alt left right ihLeft ihRight =>
    rcases taken with left | right
    · exact ihLeft left
    · exact ihRight right
  | group captures body ih => exact ih taken
  | repeated body least most lazy ih =>
    obtain ⟨count, _, _, path⟩ := taken
    exact times_le (fun _ _ => ih) path

-- A way that takes something ends inside the text.
theorem takes_inside {e : Expr} {i j : Nat} (taken : Takes subject e i j) (onwards : i < j) : j ≤ subject.size := by
  induction e generalizing i j with
  | empty =>
    obtain rfl : j = i := taken
    exact absurd onwards (Nat.lt_irrefl j)
  | set s =>
    obtain ⟨rfl, c, here, _⟩ := taken
    obtain ⟨bound, _⟩ := Array.getElem?_eq_some_iff.mp here
    exact bound
  | look l =>
    obtain ⟨rfl, _⟩ := taken
    exact absurd onwards (Nat.lt_irrefl j)
  | cat first second ihFirst ihSecond =>
    obtain ⟨m, left, right⟩ := taken
    rcases Nat.eq_or_lt_of_le (takes_le right) with rfl | later
    · exact ihFirst left onwards
    · exact ihSecond right later
  | alt left right ihLeft ihRight =>
    rcases taken with left | right
    · exact ihLeft left onwards
    · exact ihRight right onwards
  | group captures body ih => exact ih taken onwards
  | repeated body least most lazy ih =>
    obtain ⟨count, _, _, path⟩ := taken
    exact times_inside (fun _ _ => takes_le) (fun _ _ => ih) path onwards

end Bounds

theorem rounds_eq_iterate (f : Nat → Nat) (count s : Nat) : rounds f count s = f^[count] s := by
  induction count generalizing s with
  | zero => rfl
  | succ count ih =>
    rw [Function.iterate_succ_apply]
    simp only [rounds]
    split
    · rename_i fixed
      rw [fixed]
      exact (Function.iterate_fixed fixed count).symm
    · exact ih (f s)

-- A function on sets of positions that moves every position on its own.
def Moves (f : Nat → Nat) (step : Nat → Nat → Prop) : Prop :=
  ∀ s j, (f s).testBit j = true ↔ ∃ i, s.testBit i = true ∧ step i j

section Moves
variable {f : Nat → Nat} {step : Nat → Nat → Prop} (moves : Moves f step)
include moves

theorem Moves.rounds (count : Nat) : Moves (Pattern.rounds f count) (Times step count) := by
  intro s j
  rw [rounds_eq_iterate]
  induction count generalizing s with
  | zero => simp [Times]
  | succ count ih =>
    rw [Function.iterate_succ_apply, ih]
    simp only [moves s, Times]
    constructor
    · intro path
      obtain ⟨m, ⟨i, start, first⟩, rest⟩ := path
      exact ⟨i, start, m, first, rest⟩
    · intro path
      obtain ⟨i, start, m, first, rest⟩ := path
      exact ⟨m, ⟨i, start, first⟩, rest⟩

theorem Moves.grow : Moves (fun s => s ||| f s) (fun i j => j = i ∨ step i j) := by
  intro s j
  simp only [Nat.testBit_or, Bool.or_eq_true, moves s]
  constructor
  · intro reached
    rcases reached with stayed | ⟨i, start, first⟩
    · exact ⟨j, stayed, .inl rfl⟩
    · exact ⟨i, start, .inr first⟩
  · intro reached
    obtain ⟨i, start, rfl | first⟩ := reached
    · exact .inl start
    · exact .inr ⟨i, start, first⟩

end Moves

-- Some number of steps from the least to the greatest, or any number from the least on.
theorem reach_repeated {subject : Array Char} {body : Expr} (moves : Moves (reach subject body) (Takes subject body))
    (least : Nat) (most : Option Nat) (lazy : Bool) :
    Moves (reach subject (.repeated body least most lazy)) (Takes subject (.repeated body least most lazy)) := by
  intro s j
  have required := moves.rounds least
  have forwards : ∀ i j, Takes subject body i j → i ≤ j := fun _ _ => takes_le
  cases most with
  | some bound =>
    simp only [reach, moves.grow.rounds _ _ j, required s, times_or_stay, Takes]
    constructor
    · intro path
      obtain ⟨m, ⟨i, start, front⟩, fewer, few, back⟩ := path
      exact ⟨i, start, least + fewer, by omega, by simp; omega, times_add.mpr ⟨m, front, back⟩⟩
    · intro path
      obtain ⟨i, start, count, enough, allowed, path⟩ := path
      have few : count ≤ max least bound := by simpa using allowed
      obtain ⟨fewer, rfl⟩ := Nat.exists_eq_add_of_le enough
      obtain ⟨m, front, back⟩ := times_add.mp path
      exact ⟨m, ⟨i, start, front⟩, fewer, by omega, back⟩
  | none =>
    simp only [reach, moves.grow.rounds _ _ j, required s, times_or_stay, Takes]
    constructor
    · intro path
      obtain ⟨m, ⟨i, start, front⟩, fewer, _, back⟩ := path
      exact ⟨i, start, least + fewer, by omega, by simp, times_add.mpr ⟨m, front, back⟩⟩
    · intro path
      obtain ⟨i, start, count, enough, _, path⟩ := path
      obtain ⟨more, rfl⟩ := Nat.exists_eq_add_of_le enough
      obtain ⟨m, front, back⟩ := times_add.mp path
      obtain ⟨fewer, few, short⟩ := times_short forwards back
      have inside : m < j → j ≤ subject.size := by
        intro onwards
        have whole : Takes subject (.repeated body 0 none lazy) m j := ⟨more, by omega, by simp, back⟩
        exact takes_inside whole onwards
      exact ⟨m, ⟨i, start, front⟩, fewer, by omega, short⟩

theorem reach_moves (subject : Array Char) (e : Expr) : Moves (reach subject e) (Takes subject e) := by
  induction e with
  | empty =>
    intro s j
    simp [reach, Takes]
  | set set =>
    intro s j
    simp only [reach, Takes, Nat.testBit_shiftLeft, Nat.testBit_and, testBit_bitsWhere, Bool.and_eq_true,
      decide_eq_true_eq, Option.any_eq_true]
    constructor
    · intro reached
      obtain ⟨positive, start, _, c, here, member⟩ := reached
      exact ⟨j - 1, start, by omega, c, here, member⟩
    · intro reached
      obtain ⟨i, start, rfl, c, here, member⟩ := reached
      obtain ⟨bound, _⟩ := Array.getElem?_eq_some_iff.mp here
      exact ⟨by omega, start, bound, c, here, member⟩
  | look l =>
    intro s j
    simp only [reach, Takes, Nat.testBit_and, testBit_bitsWhere, Bool.and_eq_true, decide_eq_true_eq, Nat.lt_succ_iff]
    constructor
    · intro reached
      obtain ⟨start, inside, holds⟩ := reached
      exact ⟨j, start, rfl, inside, holds⟩
    · intro reached
      obtain ⟨i, start, rfl, inside, holds⟩ := reached
      exact ⟨start, inside, holds⟩
  | cat first second ihFirst ihSecond =>
    intro s j
    simp only [reach, Takes, ihSecond _ j, ihFirst s]
    constructor
    · intro path
      obtain ⟨m, ⟨i, start, front⟩, back⟩ := path
      exact ⟨i, start, m, front, back⟩
    · intro path
      obtain ⟨i, start, m, front, back⟩ := path
      exact ⟨m, ⟨i, start, front⟩, back⟩
  | alt left right ihLeft ihRight =>
    intro s j
    simp only [reach, Takes, Nat.testBit_or, Bool.or_eq_true, ihLeft s, ihRight s, ← exists_or, and_or_left]
  | group captures body ih => exact ih
  | repeated body least most lazy ih => exact reach_repeated ih least most lazy

theorem reach_testBit (subject : Array Char) (e : Expr) (starts j : Nat) :
    (reach subject e starts).testBit j = true ↔ ∃ i, starts.testBit i = true ∧ Takes subject e i j :=
  reach_moves subject e starts j

theorem isMatch_iff {e : Expr} {text : String} : e.isMatch text = true ↔
    ∃ i j, i ≤ text.toList.toArray.size ∧ Takes text.toList.toArray e i j := by
  have nonzero : ∀ s : Nat, s ≠ 0 ↔ ∃ j, s.testBit j = true := by
    intro s
    rw [← not_iff_not, not_exists, not_not]
    constructor
    · intro zero j
      simp [zero]
    · intro clear
      apply Nat.eq_of_testBit_eq
      intro j
      simpa using clear j
  simp only [Expr.isMatch, bne_iff_ne, nonzero, reach_testBit, testBit_bitsWhere, Nat.lt_succ_iff, Bool.and_true,
    decide_eq_true_eq]
  exact exists_comm

end CardQuery.Pattern
