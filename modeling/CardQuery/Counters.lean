import CardQuery.Table

namespace CardQuery

-- Only calls raise a counter, each by one at most, and 2^64 calls are out of reach: so the counts have no bound here.
structure Counters where
  calls : Nat := 0
  shortcuts : Nat := 0
  slow : Nat := 0
  cacheHits : Nat := 0
  slowTexts : Table String Nat := {}
  deriving DecidableEq

namespace Counters

def call (c : Counters) : Counters := { c with calls := c.calls + 1 }
def shortcut (c : Counters) : Counters := { c with shortcuts := c.shortcuts + 1 }
def cacheHit (c : Counters) : Counters := { c with cacheHits := c.cacheHits + 1 }

def slowCall (c : Counters) (text : String) : Counters :=
  { c with
    slow := c.slow + 1
    slowTexts := c.slowTexts.insert text ((c.slowTexts.get? text).getD 0 + 1) }

def hotter (a b : String × Nat) : Bool := b.2 < a.2 || (a.2 == b.2 && a.1 ≤ b.1)

def hottest (c : Counters) (limit : Nat) : List (String × Nat) :=
  (c.slowTexts.entries.mergeSort hotter).take limit

end Counters
end CardQuery
