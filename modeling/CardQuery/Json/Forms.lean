import CardQuery.Counters
import CardQuery.Json
import CardQuery.ResultSet
import CardQuery.Config

namespace CardQuery

open Json (required defaulted)

def encodeNamed (name : α → String) (a : α) : Json := .str (name a)
def decodeNamed (all : List α) (name : α → String) (j : Json) : Option α :=
  j.bare?.bind fun text => all.find? fun a => name a == text

def CardType.title : CardType → String
  | minion => "Minion"
  | hero => "Hero"
  | weapon => "Weapon"
  | spell => "Spell"
  | power => "Power"

namespace NoTypePolicy

def all : List NoTypePolicy := [matchAny, matchNone, reject]

def title : NoTypePolicy → String
  | matchAny => "MatchAny"
  | matchNone => "MatchNone"
  | reject => "Reject"

end NoTypePolicy

namespace PropertyKey

-- Only the known keys have a title; the other ones hold their name.
def title : PropertyKey → String
  | attack => "Attack"
  | health => "Health"
  | maxHealth => "MaxHealth"
  | cost => "Cost"
  | overload => "Overload"
  | spellDamage => "SpellDamage"
  | race => "Race"
  | name => "Name"
  | other _ => "Other"

end PropertyKey

instance : JsonForm EntityId where
  encode id := encode id.raw
  decode j := (decode j).map EntityId.mk

instance : JsonForm CardId where
  encode id := encode id.raw
  decode j := (decode j).map CardId.mk

instance : JsonForm PlayerId where
  encode p := encode p.raw
  decode j := (decode j).map PlayerId.mk

instance : JsonForm Zone := ⟨encodeNamed Zone.title, decodeNamed Zone.all Zone.title⟩
instance : JsonForm Tag := ⟨encodeNamed Tag.title, decodeNamed Tag.all Tag.title⟩
instance : JsonForm CardType := ⟨encodeNamed CardType.title, decodeNamed CardType.all CardType.title⟩
instance : JsonForm NoTypePolicy := ⟨encodeNamed NoTypePolicy.title, decodeNamed NoTypePolicy.all NoTypePolicy.title⟩

-- Repetitions in a written set are kept.
instance : JsonForm TagSet where
  encode s := encode s.toList
  decode j := (decode j).map TagSet.mk

instance : JsonForm PropertyKey where
  encode
    | .other name => .obj [("Other", encode name)]
    | key => .str key.title
  decode j :=
    match j.choice? with
    | some ("Other", some content) => (decode content).map PropertyKey.other
    | _ => decodeNamed PropertyKey.known PropertyKey.title j

instance : JsonForm Value where
  encode
    | .int n => .obj [("Int", encode n)]
    | .bool b => .obj [("Bool", encode b)]
    | .text s => .obj [("Text", encode s)]
  decode j :=
    match j.choice? with
    | some ("Int", some content) => (decode content).map Value.int
    | some ("Bool", some content) => (decode content).map Value.bool
    | some ("Text", some content) => (decode content).map Value.text
    | _ => none

instance : JsonForm Properties where
  encode p := .obj [
    ("attack", encode p.attack), ("health", encode p.health), ("max_health", encode p.maxHealth),
    ("cost", encode p.cost), ("overload", encode p.overload), ("spell_damage", encode p.spellDamage),
    ("race", encode p.race), ("name", encode p.name), ("extra", encode p.extra)]
  decode j := do
    let fields ← j.members?
      ["attack", "health", "max_health", "cost", "overload", "spell_damage", "race", "name", "extra"]
    return {
      attack := ← required fields "attack"
      health := ← required fields "health"
      maxHealth := ← defaulted fields "max_health" none
      cost := ← required fields "cost"
      overload := ← required fields "overload"
      spellDamage := ← required fields "spell_damage"
      race := ← defaulted fields "race" none
      name := ← required fields "name"
      extra := ← defaulted fields "extra" {} }

instance : JsonForm Capabilities where
  encode c := .obj [
    ("battlecry", encode c.battlecry), ("deathrattle", encode c.deathrattle), ("aura", encode c.aura),
    ("trigger", encode c.trigger)]
  decode j := do
    let fields ← j.members? ["battlecry", "deathrattle", "aura", "trigger"]
    return {
      battlecry := ← required fields "battlecry"
      deathrattle := ← required fields "deathrattle"
      aura := ← required fields "aura"
      trigger := ← required fields "trigger" }

instance : JsonForm Enchantment where
  encode e := .obj [("name", encode e.name), ("grants_deathrattle", encode e.grantsDeathrattle)]
  decode j := do
    let fields ← j.members? ["name", "grants_deathrattle"]
    return { name := ← required fields "name", grantsDeathrattle := ← required fields "grants_deathrattle" }

instance : JsonForm Card where
  encode c := .obj [
    ("entity_id", encode c.id), ("card_id", encode c.definition), ("owner", encode c.owner),
    ("zone", encode c.zone), ("card_type", encode c.type), ("tags", encode c.tags),
    ("enchantments", encode c.enchantments), ("capabilities", encode c.capabilities),
    ("properties", encode c.properties)]
  decode j := do
    let fields ← j.members?
      ["entity_id", "card_id", "owner", "zone", "card_type", "tags", "enchantments", "capabilities", "properties"]
    return {
      id := ← required fields "entity_id"
      definition := ← required fields "card_id"
      owner := ← required fields "owner"
      zone := ← required fields "zone"
      type := ← required fields "card_type"
      tags := ← required fields "tags"
      enchantments := ← defaulted fields "enchantments" []
      capabilities := ← required fields "capabilities"
      properties := ← required fields "properties" }

instance : JsonForm CardDefinition where
  encode d := .obj [
    ("id", encode d.id), ("card_type", encode d.type), ("properties", encode d.properties),
    ("tags", encode d.tags), ("capabilities", encode d.capabilities)]
  decode j := do
    let fields ← j.members? ["id", "card_type", "properties", "tags", "capabilities"]
    return {
      id := ← required fields "id"
      type := ← required fields "card_type"
      properties := ← required fields "properties"
      tags := ← required fields "tags"
      capabilities := ← required fields "capabilities" }

instance [JsonForm α] : JsonForm (Seats α) where
  encode s := .obj [("data", .arr [encode s.first, encode s.second])]
  decode j := do
    let fields ← j.members? ["data"]
    match Entries.get? "data" fields with
    | some (.arr [first, second]) => return ⟨← decode first, ← decode second⟩
    | _ => none

def decodeEntityKey (key : String) : Option EntityId := do
  let n ← Text.readNatural key.toList
  if n < 0x100000000 ∧ Text.renderNatural n = key then some ⟨UInt32.ofNat n⟩ else none

def decodeCards : List (String × Card) → Option (List (EntityId × Card))
  | [] => some []
  | (key, card) :: rest => do return (← decodeEntityKey key, card) :: (← decodeCards rest)

-- The cards of a board by number. The key decides where a card is found, whatever the card says.
instance : JsonForm (Table EntityId Card) where
  encode t := .obj (t.entries.map fun (id, card) => (Text.renderNatural id.raw.toNat, encode card))
  decode
    | .obj members => do return Table.ofList (← decodeCards (← Json.decodeMembers members))
    | _ => none

instance : JsonForm Board where
  encode b := .obj [("pools", encode b.pools), ("cards", encode b.cards), ("next_entity_id", encode b.next)]
  decode j := do
    let fields ← j.members? ["pools", "cards", "next_entity_id"]
    let pools ← required fields "pools"
    let cards ← required fields "cards"
    let next : Nat ← required fields "next_entity_id"
    if h : next < 0x10000000000000000 then some { pools := pools, cards := cards, next := next, next_lt := h } else none

instance : JsonForm ResultSet where
  encode s := .obj [("ids", encode s.ids)]
  decode j := do
    let fields ← j.members? ["ids"]
    return ⟨← required fields "ids"⟩

instance : JsonForm Config where
  encode c := .obj [
    ("empty_type_clause", encode c.noType), ("cache_compiled", encode c.caching),
    ("collect_diagnostics", encode c.counting)]
  decode j := do
    let fields ← j.members? ["empty_type_clause", "cache_compiled", "collect_diagnostics"]
    return {
      noType := ← required fields "empty_type_clause"
      caching := ← required fields "cache_compiled"
      counting := ← required fields "collect_diagnostics" }

instance : JsonForm Counters where
  encode c := .obj [
    ("calls", encode c.calls), ("fast_path_hits", encode c.shortcuts), ("slow_path", encode c.slow),
    ("cache_hits", encode c.cacheHits), ("slow_selectors", encode c.slowTexts)]
  decode j := do
    let fields ← j.members? ["calls", "fast_path_hits", "slow_path", "cache_hits", "slow_selectors"]
    return {
      calls := ← required fields "calls"
      shortcuts := ← required fields "fast_path_hits"
      slow := ← required fields "slow_path"
      cacheHits := ← required fields "cache_hits"
      slowTexts := ← required fields "slow_selectors" }

-- An alternative with named fields takes an object only.
def fieldsOnly : Json → Option (List (String × Json))
  | .obj members => some members
  | _ => none

instance : JsonForm Action where
  encode
    | .dealDamage amount => .obj [("DealDamage", encode amount)]
    | .dealSpellDamage amount caster =>
      .obj [("DealSpellDamage", .obj [("amount", encode amount), ("caster", encode caster)])]
    | .restoreHealth amount => .obj [("RestoreHealth", encode amount)]
    | .buff attack health => .obj [("Buff", .obj [("attack", encode attack), ("health", encode health)])]
    | .addTag tag => .obj [("AddTag", encode tag)]
    | .removeTag tag => .obj [("RemoveTag", encode tag)]
    | .moveTo zone => .obj [("MoveTo", encode zone)]
    | .destroy => .str "Destroy"
    | .setOwner owner => .obj [("SetOwner", encode owner)]
  decode j :=
    match j.choice? with
    | some ("DealDamage", some content) => (decode content).map Action.dealDamage
    | some ("DealSpellDamage", some content) => do
      let fields ← fieldsOnly content
      return .dealSpellDamage (← required fields "amount") (← required fields "caster")
    | some ("RestoreHealth", some content) => (decode content).map Action.restoreHealth
    | some ("Buff", some content) => do
      let fields ← fieldsOnly content
      return .buff (← required fields "attack") (← required fields "health")
    | some ("AddTag", some content) => (decode content).map Action.addTag
    | some ("RemoveTag", some content) => (decode content).map Action.removeTag
    | some ("MoveTo", some content) => (decode content).map Action.moveTo
    | some ("SetOwner", some content) => (decode content).map Action.setOwner
    | _ => if j.bare? = some "Destroy" then some .destroy else none

end CardQuery
