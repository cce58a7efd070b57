import CardQuery.Card.Definition

namespace CardQuery

-- Of several cards with one name, the name stands for the one registered last.
structure Registry where
  cards : Table CardId CardDefinition := {}
  names : Table String CardId := {}

namespace Registry

def register (r : Registry) (d : CardDefinition) : Except Fault Registry :=
  if r.cards.contains d.id then .error (.duplicateCard d.id)
  else .ok ⟨r.cards.insert d.id d, r.names.insert d.name d.id⟩

def get? (r : Registry) (id : CardId) : Option CardDefinition := r.cards.get? id
def named? (r : Registry) (name : String) : Option CardDefinition := (r.names.get? name).bind r.get?
def contains (r : Registry) (id : CardId) : Bool := r.cards.contains id
def size (r : Registry) : Nat := r.cards.size
def isEmpty (r : Registry) : Bool := r.cards.isEmpty

def ofType (r : Registry) (type : CardType) : List CardDefinition := r.cards.values.filter (·.type == type)

end Registry
end CardQuery
