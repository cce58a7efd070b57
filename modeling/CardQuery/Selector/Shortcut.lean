import CardQuery.Selector.Filter

namespace CardQuery.Shortcut

def inPlay (c : Card) : Bool := c.zone == .play

def minion (c : Card) (_ : Perspective) : Bool := inPlay c && c.type == .minion
def character (c : Card) (_ : Perspective) : Bool := inPlay c && c.isCharacter
def own (p : Card → Perspective → Bool) (c : Card) (view : Perspective) : Bool := c.owner == view.own && p c view
def enemy (p : Card → Perspective → Bool) (c : Card) (view : Perspective) : Bool := c.owner == view.enemy && p c view
def living (p : Card → Perspective → Bool) (c : Card) (view : Perspective) : Bool := p c view && 0 < c.properties.health

def table : List (String × (Card → Perspective → Bool)) := [
  ("minion", minion),
  ("character", character),
  ("own minion", own minion),
  ("enemy minion", enemy minion),
  ("own character", own character),
  ("enemy character", enemy character),
  ("enemy character .health>0", living (enemy character))]

def texts : List String := table.map (·.1)

def find? (text : String) : Option (Card → Perspective → Bool) := (table.find? (·.1 == text)).map (·.2)

end CardQuery.Shortcut
