import CardQuery.Action
import CardQuery.Selector.Filter

namespace CardQuery

inductive Severity where
  | warning | debug | trace
  deriving DecidableEq, Repr

inductive Event where
  | unknownZone (selector zone : String)
  | unknownTag (selector tag : String)
  | unknownWord (selector word : String)
  | compiled (selector : Selector)
  | shortcut (selector : String)
  | cacheHit (selector : String)
  | applied (action : Action) (targets affected : Nat)
  deriving DecidableEq, Repr

inductive Detail where
  | text (s : String)
  | number (n : Nat)
  deriving DecidableEq, Repr

def OwnerFilter.shown : OwnerFilter → String
  | any => "Any"
  | own => "Own"
  | enemy => "Enemy"

def TypeFilter.shown : TypeFilter → String
  | any => "Any"
  | only types => "Only(" ++ Text.renderNatural types.toNat ++ ")"

def Zone.title : Zone → String
  | deck => "Deck"
  | hand => "Hand"
  | play => "Play"
  | graveyard => "Graveyard"
  | aside => "Aside"
  | secret => "Secret"

def Tag.title : Tag → String
  | taunt => "Taunt"
  | divineShield => "DivineShield"
  | charge => "Charge"
  | stealth => "Stealth"
  | windfury => "Windfury"
  | frozen => "Frozen"
  | poisonous => "Poisonous"
  | lifesteal => "Lifesteal"
  | rush => "Rush"
  | immune => "Immune"
  | silenced => "Silenced"

namespace Action

def playerShown (p : PlayerId) : String := "PlayerId(" ++ Text.renderNatural p.index ++ ")"

def shown : Action → String
  | dealDamage amount => "DealDamage(" ++ Text.renderInt64 amount ++ ")"
  | dealSpellDamage amount caster =>
    "DealSpellDamage \x7b amount: " ++ Text.renderInt64 amount ++ ", caster: " ++ playerShown caster ++ " \x7d"
  | restoreHealth amount => "RestoreHealth(" ++ Text.renderInt64 amount ++ ")"
  | buff attack health =>
    "Buff \x7b attack: " ++ Text.renderInt64 attack ++ ", health: " ++ Text.renderInt64 health ++ " \x7d"
  | addTag tag => "AddTag(" ++ tag.title ++ ")"
  | removeTag tag => "RemoveTag(" ++ tag.title ++ ")"
  | moveTo zone => "MoveTo(" ++ zone.title ++ ")"
  | destroy => "Destroy"
  | setOwner owner => "SetOwner(" ++ playerShown owner ++ ")"

end Action

namespace Event

def severity : Event → Severity
  | unknownZone .. | unknownTag .. | unknownWord .. => .warning
  | compiled _ | cacheHit _ | applied .. => .debug
  | shortcut _ => .trace

def message : Event → String
  | unknownZone .. => "unknown zone in selector"
  | unknownTag .. => "unknown tag in selector, clause matches nothing"
  | unknownWord .. => "ignoring unknown selector token"
  | compiled _ => "compiled selector"
  | shortcut _ => "fast path"
  | cacheHit _ => "compiled selector cache hit"
  | applied .. => "applied bulk action"

def details : Event → List (String × Detail)
  | unknownZone selector zone => [("selector", .text selector), ("zone", .text zone)]
  | unknownTag selector tag => [("selector", .text selector), ("tag", .text tag)]
  | unknownWord selector word => [("selector", .text selector), ("token", .text word)]
  | compiled s =>
    [("selector", .text s.text), ("owner", .text s.owner.shown), ("types", .text s.types.shown),
     ("zones", .number s.zones.zones.toNat), ("tags", .number s.tags.length),
     ("properties", .number s.properties.length)]
  | shortcut selector | cacheHit selector => [("selector", .text selector)]
  | applied action targets affected =>
    [("action", .text action.shown), ("targets", .number targets), ("affected", .number affected)]

end Event
end CardQuery
