import CardQuery.Card
import CardQuery.Pattern

namespace CardQuery

inductive OwnerFilter where
  | any | own | enemy
  deriving DecidableEq, Repr

-- Any type, or a set of types; the empty set holds for no card.
inductive TypeFilter where
  | any
  | only (types : UInt8)
  deriving DecidableEq, Repr

structure ZoneFilter where
  zones : UInt8
  deriving DecidableEq, Repr

inductive TagFilter where
  | battlecry | deathrattle | aura | trigger | overload
  | has (tag : Tag)
  | unknown (name : String)
  deriving DecidableEq, Repr

inductive PropertyTest where
  | truthy
  | equals (raw : String) (pattern : Pattern)
  | notEquals (raw : String)
  | order (op : Operator) (value : Int64)
  deriving DecidableEq, Repr

structure PropertyFilter where
  key : PropertyKey
  test : PropertyTest
  deriving DecidableEq, Repr

structure Selector where
  text : String
  owner : OwnerFilter
  types : TypeFilter
  zones : ZoneFilter
  tags : List TagFilter
  properties : List PropertyFilter
  deriving DecidableEq, Repr

def OwnerFilter.holds (f : OwnerFilter) (c : Card) (view : Perspective) : Bool :=
  match f with
  | any => true
  | own => c.owner == view.own
  | enemy => c.owner == view.enemy

namespace TypeFilter

def character : TypeFilter := only (CardType.minion.bit ||| CardType.hero.bit)

def holds (f : TypeFilter) (c : Card) : Bool :=
  match f with
  | any => true
  | only types => types &&& c.type.bit != 0

end TypeFilter

namespace ZoneFilter

def play : ZoneFilter := ⟨Zone.play.bit⟩

def holds (f : ZoneFilter) (c : Card) : Bool := f.zones &&& c.zone.bit != 0

end ZoneFilter

namespace TagFilter

-- Behaviours have names of their own; then come the tags.
def ofName (name : String) : TagFilter :=
  if name = "battlecry" then battlecry
  else if name = "deathrattle" then deathrattle
  else if name = "aura" then aura
  else if name = "trigger" then trigger
  else if name = "overload" then overload
  else match Tag.ofName? name with
    | some tag => has tag
    | none => unknown name

def holds (f : TagFilter) (c : Card) : Bool :=
  match f with
  | battlecry => c.hasBattlecry
  | deathrattle => c.hasDeathrattle
  | aura => c.hasAura
  | trigger => c.hasTrigger
  | overload => c.hasOverload
  | has tag => c.hasTag tag
  | unknown _ => false

end TagFilter

-- Equality with a literal, however it was written: `3` is the number 3, `true` the truth value.
def Value.looselyEquals (v : Value) (raw : String) : Bool :=
  match v with
  | .int n => Text.readInt64 raw == some n
  | .bool true => raw == "true"
  | .bool false => raw == "false"
  | .text s => s == raw

namespace PropertyTest

-- A missing value is not equal to anything; every other test of it fails.
def holds (test : PropertyTest) (value : Option Value) : Bool :=
  match test, value with
  | truthy, some v => v.isTruthy
  | equals raw pattern, some v => v.looselyEquals raw || pattern.isMatch v.render
  | notEquals raw, some v => !v.looselyEquals raw
  | notEquals _, none => true
  | order op bound, some (.int n) => op.compare n bound
  | _, _ => false

end PropertyTest

def PropertyFilter.accepts (f : PropertyFilter) (c : Card) (selector : String) : Except SelectorError Bool :=
  let value := c.get? f.key
  match f.test, value with
  | .order op _, some (.bool b) =>
    .error (.meaningless selector (.propertyNotNumeric op f.key c.id (.bool b)))
  | .order op _, some (.text s) =>
    .error (.meaningless selector (.propertyNotNumeric op f.key c.id (.text s)))
  | test, value => .ok (test.holds value)

-- Filters are tried in order; the first that fails or does not hold decides.
def PropertyFilter.allAccept (c : Card) (selector : String) : List PropertyFilter → Except SelectorError Bool
  | [] => .ok true
  | f :: fs =>
    match f.accepts c selector with
    | .error e => .error e
    | .ok false => .ok false
    | .ok true => allAccept c selector fs

namespace Selector

def admits (s : Selector) (c : Card) (view : Perspective) : Bool :=
  s.owner.holds c view && s.types.holds c && s.zones.holds c && s.tags.all (·.holds c)

-- Properties come last, so only a card that passes all else can make them fail.
def accepts (s : Selector) (c : Card) (view : Perspective) : Except SelectorError Bool :=
  if s.admits c view then PropertyFilter.allAccept c s.text s.properties else .ok false

end Selector
end CardQuery
