import CardQuery.Config
import CardQuery.Event

namespace CardQuery

def TypeWord.types : TypeWord → UInt8
  | card => CardType.all.foldl (fun types t => types ||| t.bit) 0
  | minion => CardType.minion.bit
  | hero => CardType.hero.bit
  | character => CardType.minion.bit ||| CardType.hero.bit
  | weapon => CardType.weapon.bit
  | spell => CardType.spell.bit
  | power => CardType.power.bit

structure Draft where
  owner : Option OwnerWord := none
  anyType : Bool := false
  types : UInt8 := 0
  zones : Option UInt8 := none
  tags : List TagFilter := []
  properties : List PropertyFilter := []
  deriving DecidableEq, Repr

def PropertyTest.compile (text : String) (key : PropertyKey) (c : Comparison) : Except SelectorError PropertyTest :=
  match c.op with
  | .eq =>
    match Pattern.ofClause? c.value with
    | none => .error (.malformed text c.value .badPattern)
    | some pattern => .ok (.equals c.value pattern)
  | .ne => .ok (.notEquals c.value)
  | op =>
    if key.kind? = some .text then .error (.meaningless text (.ordersText op key))
    else match Text.readInt64 c.value with
      | none => .error (.meaningless text (.valueNotNumeric op c.value))
      | some bound => .ok (.order op bound)

def PropertyFilter.compile (text name : String) (c : Option Comparison) : Except SelectorError PropertyFilter :=
  let key := PropertyKey.ofName name
  match c with
  | none => .ok ⟨key, .truthy⟩
  | some c => (PropertyTest.compile text key c).map fun test => ⟨key, test⟩

namespace Draft

def addOwner (text : String) (d : Draft) (word : OwnerWord) : Except SelectorError Draft :=
  match d.owner with
  | none => .ok { d with owner := some word }
  | some earlier =>
    if earlier = word then .ok d else .error (.malformed text word.text (.ownerConflict earlier))

def addType (d : Draft) (word : TypeWord) : Draft :=
  if word = .card then { d with anyType := true } else { d with types := d.types ||| word.types }

-- Any zone word ends the default, also one that names no zone.
def addZone (d : Draft) (name : String) : Draft :=
  { d with zones := some (d.zones.getD 0 ||| ((Zone.ofName? name).map Zone.bit).getD 0) }

def add (text : String) (d : Draft) : Token → Except SelectorError Draft
  | .owner word => d.addOwner text word
  | .type word => .ok (d.addType word)
  | .zone name => .ok (d.addZone name)
  | .tag name => .ok { d with tags := d.tags ++ [TagFilter.ofName name] }
  | .property name c =>
    (PropertyFilter.compile text name c).map fun f => { d with properties := d.properties ++ [f] }
  | .unknown _ => .ok d

def ownerFilter (d : Draft) : OwnerFilter :=
  match d.owner with
  | none | some .any => .any
  | some .own => .own
  | some .enemy => .enemy

def typeFilter (text : String) (policy : NoTypePolicy) (d : Draft) : Except SelectorError TypeFilter :=
  if d.anyType then .ok .any
  else if d.types ≠ 0 then .ok (.only d.types)
  else match policy with
    | .matchAny => .ok .any
    | .matchNone => .ok (.only 0)
    | .reject => .error (.meaningless text .noType)

def zoneFilter (d : Draft) : ZoneFilter :=
  match d.zones with
  | none => .play
  | some zones => ⟨zones⟩

def finish (text : String) (policy : NoTypePolicy) (d : Draft) : Except SelectorError Selector :=
  (d.typeFilter text policy).map fun types =>
    ⟨text, d.ownerFilter, types, d.zoneFilter, d.tags, d.properties⟩

end Draft

def Token.warning? (text : String) : Token → Option Event
  | zone name => if (Zone.ofName? name).isNone then some (.unknownZone text name) else none
  | tag name =>
    match TagFilter.ofName name with
    | .unknown _ => some (.unknownTag text name)
    | _ => none
  | unknown word => some (.unknownWord text word)
  | _ => none

structure Reported (α : Type) where
  events : List Event
  result : α

-- Takes in the tokens; on the first that does not fit, the warnings of those before it stand.
def Draft.addAll (text : String) (d : Draft) : List Token → Reported (Except SelectorError Draft)
  | [] => ⟨[], .ok d⟩
  | token :: rest =>
    match d.add text token with
    | .error e => ⟨[], .error e⟩
    | .ok d =>
      let later := d.addAll text rest
      ⟨(token.warning? text).toList ++ later.events, later.result⟩

def Config.report (config : Config) (text : String) : Reported (Except SelectorError Selector) :=
  match tokenize text with
  | .error e => ⟨[], .error e⟩
  | .ok tokens =>
    let draft := Draft.addAll text {} tokens
    match draft.result with
    | .error e => ⟨draft.events, .error e⟩
    | .ok d =>
      match d.finish text config.noType with
      | .error e => ⟨draft.events, .error e⟩
      | .ok selector => ⟨draft.events ++ [.compiled selector], .ok selector⟩

def compile (config : Config) (text : String) : Except SelectorError Selector := (config.report text).result

end CardQuery
