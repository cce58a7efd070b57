import CardQuery.Number

namespace CardQuery.Text

def isDigit (c : Char) : Bool := '0' ≤ c && c ≤ '9'

def digitValue (c : Char) : Nat := c.toNat - '0'.toNat

def naturalOf (digits : List Char) : Nat := digits.foldl (fun total c => 10 * total + digitValue c) 0

def readNatural (cs : List Char) : Option Nat :=
  if !cs.isEmpty && cs.all isDigit then some (naturalOf cs) else none

-- One optional sign, and then at least one digit.
def readInteger : List Char → Option Int
  | '+' :: digits => (readNatural digits).map Int.ofNat
  | '-' :: digits => (readNatural digits).map fun n => -Int.ofNat n
  | digits => (readNatural digits).map Int.ofNat

def readInt64 (text : String) : Option Int64 := (readInteger text.toList).bind Number.ofInt?

-- The digits of `n`, most significant first and without leading zeros.
def digits (n : Nat) : List Char :=
  if n < 10 then [Char.ofNat (n + 48)] else digits (n / 10) ++ [Char.ofNat (n % 10 + 48)]

def integerChars : Int → List Char
  | .ofNat n => digits n
  | .negSucc n => '-' :: digits (n + 1)

def renderNatural (n : Nat) : String := String.ofList (digits n)
def renderInt64 (n : Int64) : String := String.ofList (integerChars n.toInt)

theorem digit_facts : ∀ d < 10, isDigit (Char.ofNat (d + 48)) = true ∧ digitValue (Char.ofNat (d + 48)) = d := by
  decide

theorem digits_isDigit (n : Nat) : ∀ c ∈ digits n, isDigit c = true := by
  rw [digits]
  split
  · simpa using (digit_facts n (by assumption)).1
  · intro c member
    rcases List.mem_append.mp member with old | last
    · exact digits_isDigit (n / 10) c old
    · obtain rfl : c = _ := by simpa using last
      exact (digit_facts (n % 10) (by omega)).1

theorem digits_ne_nil (n : Nat) : digits n ≠ [] := by
  rw [digits]; split <;> simp

theorem naturalOf_digits (n : Nat) : naturalOf (digits n) = n := by
  rw [digits]
  split
  · simpa [naturalOf] using (digit_facts n (by assumption)).2
  · have front := naturalOf_digits (n / 10)
    have last := (digit_facts (n % 10) (by omega)).2
    simp only [naturalOf, List.foldl_append, List.foldl_cons, List.foldl_nil] at front ⊢
    rw [front, last]
    omega

theorem readNatural_digits (n : Nat) : readNatural (digits n) = some n := by
  have all : (digits n).all isDigit = true := List.all_eq_true.mpr (digits_isDigit n)
  simp [readNatural, all, digits_ne_nil, naturalOf_digits]

theorem readInteger_of_digit {c : Char} (digit : isDigit c = true) (rest : List Char) :
    readInteger (c :: rest) = (readNatural (c :: rest)).map Int.ofNat := by
  unfold readInteger
  split
  · rename_i h; cases h; exact absurd digit (by decide)
  · rename_i h; cases h; exact absurd digit (by decide)
  · rfl

theorem readInteger_chars (n : Int) : readInteger (integerChars n) = some n := by
  cases n with
  | ofNat n =>
    simp only [integerChars]
    cases h : digits n with
    | nil => exact absurd h (digits_ne_nil n)
    | cons c rest =>
      rw [readInteger_of_digit (digits_isDigit n c (by simp [h])), ← h, readNatural_digits]
      rfl
  | negSucc n => rw [integerChars, readInteger, readNatural_digits]; rfl

theorem readInt64_render (n : Int64) : readInt64 (renderInt64 n) = some n := by
  simp [readInt64, renderInt64, readInteger_chars, Number.ofInt?_eq_some]

end CardQuery.Text
