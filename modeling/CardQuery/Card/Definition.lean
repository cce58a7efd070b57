import CardQuery.Card.Properties
import CardQuery.Card.Tag
import CardQuery.Fault

namespace CardQuery

inductive CardType where
  | minion | hero | weapon | spell | power
  deriving DecidableEq, Repr

namespace CardType

def all : List CardType := [minion, hero, weapon, spell, power]

def bit : CardType → UInt8
  | minion => 1
  | hero => 2
  | weapon => 4
  | spell => 8
  | power => 16

def isCharacter : CardType → Bool
  | minion | hero => true
  | weapon | spell | power => false

end CardType

structure Capabilities where
  battlecry : Bool := false
  deathrattle : Bool := false
  aura : Bool := false
  trigger : Bool := false
  deriving DecidableEq, Repr

structure CardDefinition where
  id : CardId
  type : CardType
  properties : Properties := {}
  tags : TagSet := {}
  capabilities : Capabilities := {}
  deriving DecidableEq

namespace CardDefinition

def named (id : CardId) (name : String) (type : CardType) : CardDefinition :=
  { id, type, properties := { name := name } }

def name (d : CardDefinition) : String := d.properties.name

def withCost (d : CardDefinition) (cost : Int64) : CardDefinition :=
  { d with properties := { d.properties with cost := cost } }

-- The health printed on a card is also what healing stops at.
def withStats (d : CardDefinition) (attack health : Int64) : CardDefinition :=
  { d with properties := { d.properties with attack := attack, health := health, maxHealth := some health } }

def withRace (d : CardDefinition) (race : String) : CardDefinition :=
  { d with properties := { d.properties with race := some race } }

def withOverload (d : CardDefinition) (overload : Int64) : CardDefinition :=
  { d with properties := { d.properties with overload := overload } }

-- A value of the wrong kind is a mistake in the catalogue and ends the building.
def withProperty (d : CardDefinition) (key : PropertyKey) (value : Value) : Except Fault CardDefinition :=
  match d.properties.set key value with
  | .ok properties => .ok { d with properties := properties }
  | .error error => .error (.refusedCardProperty d.id d.name error)

def withTag (d : CardDefinition) (tag : Tag) : CardDefinition := { d with tags := d.tags.insert tag }

end CardDefinition
end CardQuery
