import CardQuery.Text.Decimal

namespace CardQuery

structure EntityId where
  raw : UInt32
  deriving DecidableEq, Repr

structure CardId where
  raw : UInt32
  deriving DecidableEq, Repr

def EntityId.shown (id : EntityId) : String := "Entity(" ++ Text.renderNatural id.raw.toNat ++ ")"
def CardId.shown (id : CardId) : String := "Card(" ++ Text.renderNatural id.raw.toNat ++ ")"

end CardQuery
