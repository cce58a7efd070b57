import CardQuery.Board
import CardQuery.Event
import CardQuery.Random

namespace CardQuery

-- Repetitions count; members that have left the board are passed over.
structure ResultSet where
  ids : List EntityId := []
  deriving DecidableEq, Repr

namespace ResultSet

def push (s : ResultSet) (id : EntityId) : ResultSet := ⟨s.ids ++ [id]⟩
def append (s t : ResultSet) : ResultSet := ⟨s.ids ++ t.ids⟩
def size (s : ResultSet) : Nat := s.ids.length
def isEmpty (s : ResultSet) : Bool := s.ids.isEmpty
def contains (s : ResultSet) (id : EntityId) : Bool := s.ids.contains id
def first? (s : ResultSet) : Option EntityId := s.ids.head?
def last? (s : ResultSet) : Option EntityId := s.ids.getLast?

def draw (s : ResultSet) (rng : Random) : Option EntityId × Random :=
  if s.isEmpty then (none, rng)
  else match rng.draw 0 s.size with
    | (.ok i, rng) => (s.ids[i]?, rng)
    | (.error _, rng) => (none, rng)

end ResultSet

namespace Board

def visit (f : Card → Except Fault α × Card) (b : Board) : List EntityId → Except Fault (List α) × Board
  | [] => (.ok [], b)
  | id :: rest =>
    match b.get? id with
    | none => b.visit f rest
    | some card =>
      match f card with
      | (.error fault, card) => (.error fault, b.modify id fun _ => card)
      | (.ok answer, card) =>
        match (b.modify id fun _ => card).visit f rest with
        | (.error fault, b) => (.error fault, b)
        | (.ok answers, b) => (.ok (answer :: answers), b)

-- Summed in order, so a running sum out of range is a fault even if later cards would bring it back.
def sumStats (total : Int64) : List Int64 → Except Fault Int64
  | [] => .ok total
  | n :: rest =>
    match Number.add? total n with
    | none => .error .addOverflow
    | some total => sumStats total rest

def spellBonus (b : Board) (player : PlayerId) : Except Fault Int64 :=
  sumStats 0 ((b.allCards.filter fun c => c.owner == player && c.zone == .play).map (·.properties.spellDamage))

-- Spell damage becomes plain damage by the bonus as it is now.
def resolve (b : Board) : Action → Except Fault Action
  | .dealSpellDamage amount caster =>
    match b.spellBonus caster with
    | .error fault => .error fault
    | .ok bonus =>
      match Number.add? amount bonus with
      | none => .error .addOverflow
      | some total => .ok (.dealDamage total)
  | action => .ok action

structure Applied where
  result : Except Fault Nat
  board : Board
  events : List Event := []

-- Nothing is done for no member.
def apply (b : Board) (targets : ResultSet) (action : Action) : Applied :=
  if targets.isEmpty then ⟨.ok 0, b, []⟩
  else match b.resolve action with
    | .error fault => ⟨.error fault, b, []⟩
    | .ok resolved =>
      match b.visit resolved.applyTo targets.ids with
      | (.error fault, b) => ⟨.error fault, b, []⟩
      | (.ok answers, b) => ⟨.ok answers.length, b, [.applied resolved targets.size answers.length]⟩

-- Sets one property on every member; refusals do not stop the work.
def setAll (b : Board) (targets : ResultSet) (key : PropertyKey) (value : Value) :
    Except Fault (List (Except SelectorError Unit)) × Board :=
  b.visit (fun card => match card.set key value with
    | .ok card => (.ok (.ok ()), card)
    | .error e => (.ok (.error e), card)) targets.ids

end Board
end CardQuery
