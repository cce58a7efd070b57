import CardQuery.Card.Definition

namespace CardQuery

structure Enchantment where
  name : String
  grantsDeathrattle : Bool := false
  deriving DecidableEq, Repr

structure Card where
  id : EntityId
  definition : CardId
  owner : PlayerId
  zone : Zone
  type : CardType
  tags : TagSet := {}
  enchantments : List Enchantment := []
  capabilities : Capabilities := {}
  properties : Properties := {}
  deriving DecidableEq

namespace Card

def ofDefinition (id : EntityId) (d : CardDefinition) (owner : PlayerId) (zone : Zone) : Card where
  id := id
  definition := d.id
  owner := owner
  zone := zone
  type := d.type
  tags := d.tags
  capabilities := d.capabilities
  properties := d.properties

def get? (c : Card) (key : PropertyKey) : Option Value := c.properties.get? key

def set (c : Card) (key : PropertyKey) (value : Value) : Except SelectorError Card :=
  (c.properties.set key value).map fun properties => { c with properties := properties }

def withProperty (c : Card) (key : PropertyKey) (value : Value) : Except Fault Card :=
  (c.set key value).mapError .refusedProperty

def withTag (c : Card) (tag : Tag) : Card := { c with tags := c.tags.insert tag }
def enchant (c : Card) (e : Enchantment) : Card := { c with enchantments := c.enchantments ++ [e] }

def hasTag (c : Card) (tag : Tag) : Bool := c.tags.contains tag
def hasBattlecry (c : Card) : Bool := c.capabilities.battlecry
def hasDeathrattle (c : Card) : Bool := c.capabilities.deathrattle || c.enchantments.any (·.grantsDeathrattle)
def hasAura (c : Card) : Bool := c.capabilities.aura
def hasTrigger (c : Card) : Bool := c.capabilities.trigger
def hasOverload (c : Card) : Bool := c.properties.overload != 0
def isCharacter (c : Card) : Bool := c.type.isCharacter

end Card
end CardQuery
