import CardQuery.Unicode.RangeSet
import CardQuery.Unicode.ScriptRuns

namespace CardQuery.Unicode.Script

def named? (name : String) : Option Script := listed.find? fun s => s.names.contains name

def members (s : Script) : RangeSet := RangeSet.ofText s.own

-- The characters that are used with the script.
def extended (s : Script) : RangeSet := s.members.symmDiff (RangeSet.ofText s.exceptions)

end CardQuery.Unicode.Script
