import TraitCatalog.Pattern.Basic

namespace TraitCatalog
namespace Pattern

-- What the letters `i`, `m`, `s`, `x` and `a` set.
structure Options where
  foldsCase : Bool
  linewise : Bool
  dotAll : Bool
  spaced : Bool
  ascii : Bool
  deriving DecidableEq, Repr

namespace Options

def standard : Options := ⟨false, false, false, false, false⟩

def folding (o : Options) : Folding :=
  if !o.foldsCase then .exact else if o.ascii then .ascii else .full

def set? (o : Options) (value : Bool) (c : Code) : Option Options :=
  if c.is 'i' then some { o with foldsCase := value }
  else if c.is 'm' then some { o with linewise := value }
  else if c.is 's' then some { o with dotAll := value }
  else if c.is 'x' then some { o with spaced := value }
  else if c.is 'a' then some { o with ascii := value }
  else if c.is 'u' then some { o with ascii := !value }
  else if c.is 't' then some o
  else none

end Options

end Pattern
end TraitCatalog
