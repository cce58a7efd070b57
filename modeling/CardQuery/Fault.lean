import CardQuery.Player
import CardQuery.Selector.Error

namespace CardQuery

-- What was written before a fault stays written.
inductive Fault where
  | addOverflow
  | subOverflow
  | unseated (player : PlayerId)
  | idsExhausted
  | duplicateEntity (id : EntityId)
  | duplicateCard (id : CardId)
  | refusedProperty (error : SelectorError)
  | refusedCardProperty (card : CardId) (name : String) (error : SelectorError)
  | emptyRange
  deriving DecidableEq, Repr

def Fault.message : Fault → String
  | addOverflow => "attempt to add with overflow"
  | subOverflow => "attempt to subtract with overflow"
  | unseated player => "index out of bounds: the len is 2 but the index is " ++ Text.renderNatural player.index
  | idsExhausted => "entity ids exhausted"
  | duplicateEntity id => "Entity EntityId(" ++ Text.renderNatural id.raw.toNat ++ ") already on the board"
  | duplicateCard id => "Card with ID CardId(" ++ Text.renderNatural id.raw.toNat ++ ") already registered"
  | refusedProperty error => error.message
  | refusedCardProperty card name error => "card " ++ card.shown ++ " (" ++ name ++ "): " ++ error.message
  | emptyRange => "cannot sample empty range"

namespace Seats

def get (s : Seats α) (p : PlayerId) : Except Fault α :=
  match s.get? p with
  | some value => .ok value
  | none => .error (.unseated p)

def update (s : Seats α) (p : PlayerId) (f : α → Except Fault α) : Except Fault (Seats α) :=
  match s.get? p with
  | none => .error (.unseated p)
  | some value => (f value).map fun value => s.set p value

def modify (s : Seats α) (p : PlayerId) (f : α → α) : Except Fault (Seats α) := s.update p fun value => .ok (f value)

end Seats
end CardQuery
