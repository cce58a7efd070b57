import CardQuery.Text.Decimal
import CardQuery.Text.Quoted

namespace CardQuery

-- `other` with the name of a known key is a key of its own.
inductive PropertyKey where
  | attack | health | maxHealth | cost | overload | spellDamage | race | name
  | other (name : String)
  deriving DecidableEq, Repr

inductive PropertyKind where
  | integer | text
  deriving DecidableEq, Repr

inductive Value where
  | int (n : Int64)
  | bool (b : Bool)
  | text (s : String)
  deriving DecidableEq, Repr

namespace PropertyKey

def known : List PropertyKey := [attack, health, maxHealth, cost, overload, spellDamage, race, name]

def label : PropertyKey → String
  | attack => "attack"
  | health => "health"
  | maxHealth => "maxHealth"
  | cost => "cost"
  | overload => "overload"
  | spellDamage => "spellDamage"
  | race => "race"
  | name => "name"
  | other label => label

def ofName (text : String) : PropertyKey :=
  (known.find? (·.label == text)).getD (other text)

def kind? : PropertyKey → Option PropertyKind
  | race | name => some .text
  | other _ => none
  | _ => some .integer

-- Known keys stand for themselves; any other name is read again.
def resolve (key : PropertyKey) : PropertyKey := ofName key.label

@[simp] theorem label_ofName (text : String) : (ofName text).label = text := by
  unfold ofName
  cases found : known.find? (·.label == text) with
  | none => rfl
  | some key =>
    have same := List.find?_some found
    exact beq_iff_eq.mp same

end PropertyKey

namespace Value

def isTruthy : Value → Bool
  | int n => n != 0
  | bool b => b
  | text s => s != ""

def render : Value → String
  | int n => Text.renderInt64 n
  | bool true => "true"
  | bool false => "false"
  | text s => s

def asInt? : Value → Option Int64
  | int n => some n
  | _ => none

def asText? : Value → Option String
  | text s => some s
  | _ => none

def shown : Value → String
  | int n => "Int(" ++ Text.renderInt64 n ++ ")"
  | bool true => "Bool(true)"
  | bool false => "Bool(false)"
  | text s => "Text(" ++ Text.quoted s ++ ")"

end Value
end CardQuery
