namespace CardQuery

inductive Tag where
  | taunt | divineShield | charge | stealth | windfury | frozen | poisonous | lifesteal | rush | immune | silenced
  deriving DecidableEq, Repr

namespace Tag

def all : List Tag :=
  [taunt, divineShield, charge, stealth, windfury, frozen, poisonous, lifesteal, rush, immune, silenced]

def name : Tag → String
  | taunt => "taunt"
  | divineShield => "divineShield"
  | charge => "charge"
  | stealth => "stealth"
  | windfury => "windfury"
  | frozen => "frozen"
  | poisonous => "poisonous"
  | lifesteal => "lifesteal"
  | rush => "rush"
  | immune => "immune"
  | silenced => "silenced"

def ofName? (text : String) : Option Tag := all.find? (·.name == text)

theorem ofName?_name (t : Tag) : ofName? t.name = some t := by cases t <;> decide

end Tag

-- A set built by `insert` holds no tag twice; one that was read from outside may.
structure TagSet where
  toList : List Tag := []
  deriving DecidableEq, Repr

namespace TagSet

def contains (s : TagSet) (t : Tag) : Bool := s.toList.contains t
def size (s : TagSet) : Nat := s.toList.length
def isEmpty (s : TagSet) : Bool := s.toList.isEmpty

def put (s : TagSet) (t : Tag) : Bool × TagSet := if s.contains t then (false, s) else (true, ⟨s.toList ++ [t]⟩)

-- Takes away the first occurrence of a tag; answers whether there was one.
def take (s : TagSet) (t : Tag) : Bool × TagSet := (s.contains t, ⟨s.toList.erase t⟩)

def insert (s : TagSet) (t : Tag) : TagSet := (s.put t).2
def erase (s : TagSet) (t : Tag) : TagSet := (s.take t).2

def ofList (tags : List Tag) : TagSet := tags.foldl insert {}

theorem contains_eq {s : TagSet} {t : Tag} : s.contains t = true ↔ t ∈ s.toList := by simp [contains]

theorem toList_insert (s : TagSet) (t : Tag) :
    (s.insert t).toList = if t ∈ s.toList then s.toList else s.toList ++ [t] := by
  by_cases present : t ∈ s.toList <;> simp [insert, put, contains, present]

theorem contains_insert (s : TagSet) (t u : Tag) : (s.insert t).contains u = (s.contains u || decide (u = t)) := by
  by_cases present : t ∈ s.toList
  · by_cases same : u = t <;> simp_all [contains, toList_insert]
  · simp [contains, toList_insert, present]

end TagSet
end CardQuery
