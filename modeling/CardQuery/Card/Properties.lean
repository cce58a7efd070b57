import CardQuery.Selector.Error
import CardQuery.Table

namespace CardQuery

structure Properties where
  attack : Int64 := 0
  health : Int64 := 0
  -- What healing stops at; a card without it can be healed without end.
  maxHealth : Option Int64 := none
  cost : Int64 := 0
  overload : Int64 := 0
  spellDamage : Int64 := 0
  race : Option String := none
  name : String := ""
  extra : Table String Value := {}
  deriving DecidableEq

namespace Properties

def get? (p : Properties) : PropertyKey → Option Value
  | .attack => some (.int p.attack)
  | .health => some (.int p.health)
  | .maxHealth => p.maxHealth.map .int
  | .cost => some (.int p.cost)
  | .overload => some (.int p.overload)
  | .spellDamage => some (.int p.spellDamage)
  | .race => p.race.map .text
  | .name => some (.text p.name)
  | .other name => p.extra.get? name

def refuse (key : PropertyKey) (value : Value) : SelectorError :=
  .input value.render (.expects key ((key.kind?).getD .integer))

-- A write goes by the name of its key. Known properties take values of their own kind only.
def set (p : Properties) (key : PropertyKey) (value : Value) : Except SelectorError Properties :=
  match key.resolve, value with
  | .attack, .int n => .ok { p with attack := n }
  | .health, .int n => .ok { p with health := n }
  | .maxHealth, .int n => .ok { p with maxHealth := some n }
  | .cost, .int n => .ok { p with cost := n }
  | .overload, .int n => .ok { p with overload := n }
  | .spellDamage, .int n => .ok { p with spellDamage := n }
  | .race, .text s => .ok { p with race := some s }
  | .name, .text s => .ok { p with name := s }
  | .other name, value => .ok { p with extra := p.extra.insert name value }
  | key, value => .error (refuse key value)

end Properties
end CardQuery
