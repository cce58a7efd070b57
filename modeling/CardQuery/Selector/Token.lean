import CardQuery.Selector.Operator
import CardQuery.Text.Blank
import CardQuery.Unicode.Classes
import CardQuery.Zone

namespace CardQuery

inductive OwnerWord where
  | own | enemy | any
  deriving DecidableEq, Repr

inductive TypeWord where
  | card | minion | hero | character | weapon | spell | power
  deriving DecidableEq, Repr

namespace OwnerWord

def all : List OwnerWord := [own, enemy, any]

def text : OwnerWord → String
  | own => "own"
  | enemy => "enemy"
  | any => "any"

def ofText? (word : String) : Option OwnerWord := all.find? (·.text == word)

end OwnerWord

namespace TypeWord

def all : List TypeWord := [card, minion, hero, character, weapon, spell, power]

def text : TypeWord → String
  | card => "card"
  | minion => "minion"
  | hero => "hero"
  | character => "character"
  | weapon => "weapon"
  | spell => "spell"
  | power => "power"

def ofText? (word : String) : Option TypeWord := all.find? (·.text == word)

end TypeWord

structure Comparison where
  op : Operator
  value : String
  deriving DecidableEq, Repr

inductive Token where
  | owner (word : OwnerWord)
  | type (word : TypeWord)
  | zone (name : String)
  | tag (name : String)
  | property (name : String) (comparison : Option Comparison)
  | unknown (word : String)
  deriving DecidableEq, Repr

inductive WordFault where
  | missingTagName
  | missingPropertyName
  | missingValue
  | strayText (rest : String)
  | unknownOperator (rest : String)
  deriving DecidableEq, Repr

def isNameChar (c : Char) : Bool := Unicode.isAsciiLetter c || Unicode.isAsciiDigit c || c == '_'

namespace Token

-- The comparison after a property name. `<>`, `=<` and the like are no operators.
def comparison (rest : List Char) : Except WordFault (Option Comparison) :=
  if rest.isEmpty then .ok none
  else match Operator.split? rest with
    | none => .error (.strayText (String.ofList rest))
    | some (op, value) =>
      match value with
      | [] => .error .missingValue
      | c :: _ =>
        if Operator.isOperatorChar c then .error (.unknownOperator (String.ofList rest))
        else .ok (some ⟨op, String.ofList value⟩)

def property? (body : List Char) : Except WordFault Token :=
  let name := body.takeWhile isNameChar
  if name.isEmpty then .error .missingPropertyName
  else (comparison (body.dropWhile isNameChar)).map (.property (String.ofList name))

def bare (word : String) : Token :=
  match OwnerWord.ofText? word with
  | some w => .owner w
  | none => match TypeWord.ofText? word with
    | some w => .type w
    | none => .unknown word

def ofChars : List Char → Except WordFault Token
  | '@' :: name => .ok (.zone (String.ofList name))
  | '#' :: name => if name.isEmpty then .error .missingTagName else .ok (.tag (String.ofList name))
  | '.' :: body => property? body
  | word => .ok (bare (String.ofList word))

def ofWord (word : String) : Except WordFault Token := ofChars word.toList

def render : Token → String
  | owner word => word.text
  | type word => word.text
  | zone name => "@" ++ name
  | tag name => "#" ++ name
  | property name none => "." ++ name
  | property name (some ⟨op, value⟩) => "." ++ name ++ op.symbol ++ value
  | unknown word => word

end Token
end CardQuery
