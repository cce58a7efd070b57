namespace CardQuery

inductive Operator where
  | lt | gt | le | ge | eq | ne
  deriving DecidableEq, Repr

namespace Operator

def all : List Operator := [lt, gt, le, ge, eq, ne]

def symbol : Operator → String
  | lt => "<"
  | gt => ">"
  | le => "<="
  | ge => ">="
  | eq => "="
  | ne => "!="

def ofSymbol? (text : String) : Option Operator := all.find? (·.symbol == text)

def isOrdering : Operator → Bool
  | lt | gt | le | ge => true
  | eq | ne => false

def compare (op : Operator) (left right : Int64) : Bool :=
  match op with
  | lt => left < right
  | gt => right < left
  | le => left ≤ right
  | ge => right ≤ left
  | eq => left == right
  | ne => left != right

-- The longest operator at the front, so `<=` is never read as `<`.
def split? : List Char → Option (Operator × List Char)
  | '!' :: '=' :: rest => some (ne, rest)
  | '<' :: '=' :: rest => some (le, rest)
  | '>' :: '=' :: rest => some (ge, rest)
  | '<' :: rest => some (lt, rest)
  | '>' :: rest => some (gt, rest)
  | '=' :: rest => some (eq, rest)
  | _ => none

def isOperatorChar (c : Char) : Bool := c == '<' || c == '>' || c == '=' || c == '!'

theorem split?_symbol (op : Operator) {rest : List Char} (clear : ∀ c ∈ rest.head?, isOperatorChar c = false) :
    split? (op.symbol.toList ++ rest) = some (op, rest) := by
  cases rest with
  | nil => cases op <;> rfl
  | cons c rest =>
    have notEq : c ≠ '=' := by rintro rfl; exact absurd (clear '=' rfl) (by decide)
    cases op <;> simp [symbol, split?, notEq]

theorem split?_eq_append {cs rest : List Char} {op : Operator} (found : split? cs = some (op, rest)) :
    cs = op.symbol.toList ++ rest := by
  unfold split? at found
  split at found <;> cases found <;> rfl

end Operator
end CardQuery
