import TraitCatalog.Text.Basic

namespace TraitCatalog

-- What readers do not take in although it is well formed.
inductive Limit
  | digits
  | depth
  deriving DecidableEq, Repr

namespace Limit

def message : Limit → Text
  | digits => "integer with too many digits"
  | depth => "values nested too deep"

-- No decimal integer may have more digits than this.
def mostDigits : Nat := 4300

-- No more containers than this may stand inside each other in JSON text. How many there may be depends on the calls
-- that are under way where the text is read; the number stands for one depth of them, and so do all the limits that
-- are compared with it.
def mostContainers : Nat := 990

end Limit
end TraitCatalog
