import CardQuery.Unicode.Age
import CardQuery.Unicode.CaseFold
import CardQuery.Unicode.Classes
import CardQuery.Unicode.Segmentation

namespace CardQuery.Pattern

open Unicode

inductive AsciiClass where
  | alnum | alpha | ascii | blank | cntrl | digit | graph | lower | print | punct | space | upper | word | xdigit
  deriving DecidableEq, Repr

namespace AsciiClass

def all : List (String × AsciiClass) := [
  ("alnum", alnum), ("alpha", alpha), ("ascii", ascii), ("blank", blank), ("cntrl", cntrl), ("digit", digit),
  ("graph", graph), ("lower", lower), ("print", print), ("punct", punct), ("space", space), ("upper", upper),
  ("word", word), ("xdigit", xdigit)]

def ofName? (name : String) : Option AsciiClass := (all.find? (·.1 == name)).map (·.2)

def ranges : AsciiClass → List (Nat × Nat)
  | alnum => [(0x30, 0x39), (0x41, 0x5A), (0x61, 0x7A)]
  | alpha => [(0x41, 0x5A), (0x61, 0x7A)]
  | ascii => [(0x00, 0x7F)]
  | blank => [(0x09, 0x09), (0x20, 0x20)]
  | cntrl => [(0x00, 0x1F), (0x7F, 0x7F)]
  | digit => [(0x30, 0x39)]
  | graph => [(0x21, 0x7E)]
  | lower => [(0x61, 0x7A)]
  | print => [(0x20, 0x7E)]
  | punct => [(0x21, 0x2F), (0x3A, 0x40), (0x5B, 0x60), (0x7B, 0x7E)]
  | space => [(0x09, 0x0D), (0x20, 0x20)]
  | upper => [(0x41, 0x5A)]
  | word => [(0x30, 0x39), (0x41, 0x5A), (0x5F, 0x5F), (0x61, 0x7A)]
  | xdigit => [(0x30, 0x39), (0x41, 0x46), (0x61, 0x66)]

def members (k : AsciiClass) : RangeSet := ⟨k.ranges⟩

end AsciiClass

-- Names are compared without case, spaces, hyphens and underscores; an "is" right at the front says nothing.
def looseName (name : List Char) : String :=
  match name with
  | first :: second :: rest =>
    if first.toLower = 'i' ∧ second.toLower = 's' then
      if kept rest = ['c'] then "isc" else String.ofList (kept rest)
    else String.ofList (kept name)
  | name => String.ofList (kept name)
where
  kept (cs : List Char) : List Char :=
    (cs.filter fun c => c.toNat < 0x80 && c != ' ' && c != '-' && c != '_').map Char.toLower

def categoryNamed? (name : String) : Option RangeSet :=
  if name == "any" then some .all
  else if name == "assigned" then some (Category.union [.unassigned]).complement
  else if name == "ascii" then some .ascii
  else (Category.named? name).map Category.union

-- These three name a category or nothing, although they would also abbreviate properties.
def isCategoryOnly (name : String) : Bool := name == "cf" || name == "sc" || name == "lc"

def propertyNamed? (name : String) : Option RangeSet :=
  match if isCategoryOnly name then none else Property.named? name with
  | some property => some property.members
  | none => match categoryNamed? name with
    | some members => some members
    | none => (Script.named? name).map Script.members

def propertyValued? (property value : String) : Option RangeSet :=
  match property with
  | "gc" | "generalcategory" => categoryNamed? value
  | "sc" | "script" => (Script.named? value).map Script.members
  | "scx" | "scriptextensions" => (Script.named? value).map Script.extended
  | "age" => Age.named? value
  | "gcb" | "graphemeclusterbreak" => Segmentation.Grapheme.named? value
  | "wb" | "wordbreak" => Segmentation.Word.named? value
  | "sb" | "sentencebreak" => Segmentation.Sentence.named? value
  | _ => none

end CardQuery.Pattern
