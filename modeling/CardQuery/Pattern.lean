import CardQuery.Pattern.Reading

namespace CardQuery

structure Pattern where
  source : String
  expr : Pattern.Expr
  deriving DecidableEq, Repr

namespace Pattern

def ofText? (source : String) (ignoreCase : Bool) : Option Pattern :=
  (readExpr { ignoreCase := ignoreCase } source.toList).map fun expr => ⟨source, expr⟩

-- The text is pasted between the anchors as it stands, so it can close the group around it.
def anchored (text : String) : String := "^(?:" ++ text ++ ")$"

def ofClause? (text : String) : Option Pattern := ofText? (anchored text) true

def isMatch (p : Pattern) (text : String) : Bool := p.expr.isMatch text

end Pattern
end CardQuery
