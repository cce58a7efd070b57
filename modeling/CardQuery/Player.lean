import CardQuery.Entity

namespace CardQuery

-- Any number can name a player; only 0 and 1 have a seat.
structure PlayerId where
  raw : UInt8
  deriving DecidableEq, Repr

namespace PlayerId

def first : PlayerId := ⟨0⟩
def second : PlayerId := ⟨1⟩
def all : List PlayerId := [first, second]

def index (p : PlayerId) : Nat := p.raw.toNat
def isSeated (p : PlayerId) : Bool := p.index < 2

-- The other seat; everyone without a seat faces the first player.
def opponent (p : PlayerId) : PlayerId := if p = first then second else first

def shown (p : PlayerId) : String := "Player " ++ Text.renderNatural p.index

theorem isSeated_iff {p : PlayerId} : p.isSeated = true ↔ p = first ∨ p = second := by
  obtain ⟨raw⟩ := p
  have atFirst : (⟨raw⟩ : PlayerId) = first ↔ raw.toNat = 0 := by simp [first, ← UInt8.toNat_inj]
  have atSecond : (⟨raw⟩ : PlayerId) = second ↔ raw.toNat = 1 := by simp [second, ← UInt8.toNat_inj]
  rw [atFirst, atSecond]
  show decide (raw.toNat < 2) = true ↔ _
  rw [decide_eq_true_eq]
  omega

end PlayerId

structure Perspective where
  own : PlayerId
  enemy : PlayerId
  deriving DecidableEq, Repr

def Perspective.of (p : PlayerId) : Perspective := ⟨p, p.opponent⟩

structure Seats (α : Type) where
  first : α
  second : α
  deriving DecidableEq, Repr

namespace Seats

def ofFn (f : PlayerId → α) : Seats α := ⟨f .first, f .second⟩
def replicate (value : α) : Seats α := ⟨value, value⟩

def toList (s : Seats α) : List α := [s.first, s.second]
def pairs (s : Seats α) : List (PlayerId × α) := [(.first, s.first), (.second, s.second)]

def get? (s : Seats α) (p : PlayerId) : Option α :=
  if p = .first then some s.first else if p = .second then some s.second else none

-- Nothing is kept for a player without a seat.
def set (s : Seats α) (p : PlayerId) (value : α) : Seats α :=
  if p = .first then { s with first := value } else if p = .second then { s with second := value } else s

def map (f : α → β) (s : Seats α) : Seats β := ⟨f s.first, f s.second⟩

theorem get?_map (f : α → β) (s : Seats α) (p : PlayerId) : (s.map f).get? p = (s.get? p).map f := by
  unfold map get?
  split
  · rfl
  · split <;> rfl

theorem map_set (f : α → β) (s : Seats α) (p : PlayerId) (value : α) : (s.set p value).map f = (s.map f).set p (f value) := by
  unfold map set
  split
  · rfl
  · split <;> rfl

theorem get?_isSome (s : Seats α) (p : PlayerId) : (s.get? p).isSome = p.isSeated := by
  rw [Bool.eq_iff_iff, PlayerId.isSeated_iff]
  unfold get?
  split
  · simp_all
  · split <;> simp_all

end Seats
end CardQuery
