namespace CardQuery

inductive NoTypePolicy where
  | matchAny
  -- The empty union of types, which holds for no card.
  | matchNone
  | reject
  deriving DecidableEq, Repr

-- Only `noType` changes what a selector returns.
structure Config where
  noType : NoTypePolicy := .matchAny
  caching : Bool := true
  counting : Bool := true
  deriving DecidableEq, Repr

def Config.legacy : Config := { noType := .matchNone }

end CardQuery
