import CardQuery.Card
import CardQuery.Card.Registry

namespace CardQuery

-- A card stays in its pool whoever owns it.
structure Board where
  pools : Seats (List EntityId) := ⟨[], []⟩
  cards : Table EntityId Card := {}
  -- The next number to give out; one past the last once all are used.
  next : Nat := 0
  next_lt : next < 0x10000000000000000 := by omega
  deriving DecidableEq

namespace Board

-- Numbers run out at 2^32.
def alloc (b : Board) : Except Fault EntityId × Board :=
  if h : b.next < 0x100000000 then
    (.ok ⟨UInt32.ofNat b.next⟩, { b with next := b.next + 1, next_lt := by omega })
  else (.error .idsExhausted, b)

-- Puts a card at the end of a pool. The card is stored before the pool is looked up.
def add (b : Board) (pool : PlayerId) (card : Card) : Except Fault Unit × Board :=
  if b.cards.contains card.id then (.error (.duplicateEntity card.id), b)
  else
    have raw_lt := card.id.raw.toNat_lt
    have next_lt := b.next_lt
    let stored : Board :=
      { b with
        cards := b.cards.insert card.id card
        next := max b.next (card.id.raw.toNat + 1)
        next_lt := by omega }
    match stored.pools.modify pool (· ++ [card.id]) with
    | .ok pools => (.ok (), { stored with pools := pools })
    | .error fault => (.error fault, stored)

def spawn (b : Board) (pool : PlayerId) (d : CardDefinition) (owner : PlayerId) (zone : Zone) :
    Except Fault EntityId × Board :=
  match b.alloc with
  | (.error fault, b) => (.error fault, b)
  | (.ok id, b) =>
    match b.add pool (.ofDefinition id d owner zone) with
    | (.error fault, b) => (.error fault, b)
    | (.ok (), b) => (.ok id, b)

inductive SpawnFailure where
  | refused (error : SelectorError)
  | broken (fault : Fault)
  deriving DecidableEq, Repr

def spawnNamed (b : Board) (registry : Registry) (name : String) (pool owner : PlayerId) (zone : Zone) :
    Except SpawnFailure EntityId × Board :=
  match registry.named? name with
  | none => (.error (.refused (.input name .unknownCardName)), b)
  | some d =>
    match b.spawn pool d owner zone with
    | (.error fault, b) => (.error (.broken fault), b)
    | (.ok id, b) => (.ok id, b)

def get? (b : Board) (id : EntityId) : Option Card := b.cards.get? id

def modify (b : Board) (id : EntityId) (f : Card → Card) : Board := { b with cards := b.cards.modify id f }

def remove (b : Board) (id : EntityId) : Option Card × Board :=
  match b.get? id with
  | none => (none, b)
  | some card =>
    (some card, { b with cards := b.cards.erase id, pools := b.pools.map (·.filter (· != id)) })

def pool (b : Board) (p : PlayerId) : Except Fault (List EntityId) := b.pools.get p

def allCards (b : Board) : List Card := b.pools.toList.flatten.filterMap b.get?

def size (b : Board) : Nat := b.cards.size
def isEmpty (b : Board) : Bool := b.cards.isEmpty

end Board
end CardQuery
