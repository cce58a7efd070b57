import CardQuery.Unicode.AgeRuns
import CardQuery.Unicode.RangeSet

namespace CardQuery.Unicode.Age

def upTo (name : String) : List Age → List Age
  | [] => []
  | age :: later => if age.names.contains name then [age] else age :: upTo name later

def named? (name : String) : Option RangeSet :=
  if listed.any fun age => age.names.contains name then
    some (RangeSet.unions ((upTo name listed).map fun age => RangeSet.ofText age.first))
  else none

end CardQuery.Unicode.Age
