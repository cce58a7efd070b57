import CardQuery.Card

namespace CardQuery

inductive Action where
  | dealDamage (amount : Int64)
  | dealSpellDamage (amount : Int64) (caster : PlayerId)
  | restoreHealth (amount : Int64)
  | buff (attack health : Int64)
  | addTag (tag : Tag)
  | removeTag (tag : Tag)
  | moveTo (zone : Zone)
  | destroy
  | setOwner (owner : PlayerId)
  deriving DecidableEq, Repr

namespace Action

def withHealth (c : Card) (health : Int64) : Card := { c with properties := { c.properties with health := health } }
def withAttack (c : Card) (attack : Int64) : Card := { c with properties := { c.properties with attack := attack } }
def withCap (c : Card) (cap : Int64) : Card := { c with properties := { c.properties with maxHealth := some cap } }

def damage (amount : Int64) (c : Card) : Except Fault Unit × Card :=
  match Number.sub? c.properties.health amount with
  | none => (.error .subOverflow, c)
  | some health => (.ok (), withHealth c health)

-- Healing stops at the cap, but never takes health away from a card above it.
def heal (amount : Int64) (c : Card) : Except Fault Unit × Card :=
  match Number.add? c.properties.health amount with
  | none => (.error .addOverflow, c)
  | some healed =>
    match c.properties.maxHealth with
    | none => (.ok (), withHealth c healed)
    | some cap => (.ok (), withHealth c (max (min healed cap) c.properties.health))

-- Attack, health and cap are written in this order; a fault at one leaves those before it written.
def strengthen (attack health : Int64) (c : Card) : Except Fault Unit × Card :=
  match Number.add? c.properties.attack attack with
  | none => (.error .addOverflow, c)
  | some sum =>
    let c := withAttack c sum
    match Number.add? c.properties.health health with
    | none => (.error .addOverflow, c)
    | some sum =>
      let c := withHealth c sum
      match c.properties.maxHealth with
      | none => (.ok (), c)
      | some cap =>
        match Number.add? cap health with
        | none => (.error .addOverflow, c)
        | some sum => (.ok (), withCap c sum)

-- Spell damage without a board to look at is plain damage.
def applyTo (a : Action) (c : Card) : Except Fault Unit × Card :=
  match a with
  | dealDamage amount => damage amount c
  | dealSpellDamage amount _ => damage amount c
  | restoreHealth amount => heal amount c
  | buff attack health => strengthen attack health c
  | addTag tag => (.ok (), { c with tags := c.tags.insert tag })
  | removeTag tag => (.ok (), { c with tags := c.tags.erase tag })
  | moveTo zone => (.ok (), { c with zone := zone })
  | destroy => (.ok (), { c with zone := .graveyard })
  | setOwner owner => (.ok (), { c with owner := owner })

end Action
end CardQuery
