import CardQuery.Number
import CardQuery.Table
import CardQuery.Text.Decimal

namespace CardQuery

inductive Json where
  | null
  | bool (b : Bool)
  | int (n : Int)
  -- A number written with a fraction: the digits and how many of them stand after the point.
  | decimal (digits : Int) (places : Nat)
  | str (s : String)
  | arr (items : List Json)
  | obj (members : List (String × Json))
  deriving Inhabited

class JsonForm (α : Type) where
  encode : α → Json
  decode : Json → Option α

export JsonForm (encode decode)

namespace Json

def decodeAll [JsonForm α] : List Json → Option (List α)
  | [] => some []
  | j :: rest => do return (← decode j) :: (← decodeAll rest)

def decodeMembers [JsonForm α] : List (String × Json) → Option (List (String × α))
  | [] => some []
  | (key, j) :: rest => do return (key, ← decode j) :: (← decodeMembers rest)

def natBelow (bound : Nat) : Json → Option Nat
  | int (.ofNat n) => if n < bound then some n else none
  | _ => none

-- The fields of a record by name, whichever way it is given. An array may end early.
def members? (names : List String) : Json → Option (List (String × Json))
  | obj members => some members
  | arr items => if items.length ≤ names.length then some (names.zip items) else none
  | _ => none

def required [JsonForm α] (members : List (String × Json)) (name : String) : Option α :=
  (Entries.get? name members).bind decode

-- A field with a default may be missing; if it is there it must be right.
def defaulted [JsonForm α] (members : List (String × Json)) (name : String) (default : α) : Option α :=
  match Entries.get? name members with
  | none => some default
  | some j => decode j

-- An alternative is its name, or an object with the name as its only key.
def choice? : Json → Option (String × Option Json)
  | str name => some (name, none)
  | obj [(name, content)] => some (name, some content)
  | _ => none

def bare? (j : Json) : Option String :=
  match choice? j with
  | some (name, none) => some name
  | some (name, some null) => some name
  | _ => none

end Json

instance : JsonForm Bool where
  encode := .bool
  decode
    | .bool b => some b
    | _ => none

instance : JsonForm String where
  encode := .str
  decode
    | .str s => some s
    | _ => none

instance : JsonForm Int64 where
  encode n := .int n.toInt
  decode
    | .int n => Number.ofInt? n
    | _ => none

instance : JsonForm UInt32 where
  encode n := .int n.toNat
  decode j := (j.natBelow 0x100000000).map UInt32.ofNat

instance : JsonForm UInt8 where
  encode n := .int n.toNat
  decode j := (j.natBelow 0x100).map UInt8.ofNat

-- Counts are read only as far as 64 bits reach.
instance : JsonForm Nat where
  encode n := .int n
  decode j := j.natBelow 0x10000000000000000

instance [JsonForm α] : JsonForm (Option α) where
  encode
    | none => .null
    | some a => encode a
  decode
    | .null => some none
    | j => (decode j).map some

instance [JsonForm α] : JsonForm (List α) where
  encode items := .arr (items.map encode)
  decode
    | .arr items => Json.decodeAll items
    | _ => none

instance [JsonForm α] : JsonForm (Table String α) where
  encode t := .obj (t.entries.map fun (key, value) => (key, encode value))
  decode
    | .obj members => (Json.decodeMembers members).map Table.ofList
    | _ => none

end CardQuery
