namespace CardQuery

inductive Zone where
  | deck | hand | play | graveyard | aside | secret
  deriving DecidableEq, Repr

namespace Zone

def all : List Zone := [deck, hand, play, graveyard, aside, secret]

def name : Zone → String
  | deck => "deck"
  | hand => "hand"
  | play => "play"
  | graveyard => "grave"
  | aside => "aside"
  | secret => "secret"

def ofName? (text : String) : Option Zone := all.find? (·.name == text)

def bit : Zone → UInt8
  | deck => 1
  | hand => 2
  | play => 4
  | graveyard => 8
  | aside => 16
  | secret => 32

def shown (z : Zone) : String := "@" ++ z.name

theorem mem_all (z : Zone) : z ∈ all := by cases z <;> decide

theorem ofName?_name (z : Zone) : ofName? z.name = some z := by cases z <;> decide

theorem ofName?_eq_some {text : String} {z : Zone} : ofName? text = some z ↔ text = z.name := by
  constructor
  · intro found
    have := List.find?_some found
    exact (beq_iff_eq.mp this).symm
  · rintro rfl
    exact ofName?_name z

end Zone
end CardQuery
