import TraitCatalog.Catalog.Basic
import TraitCatalog.Json.Reader

namespace TraitCatalog
namespace Document

inductive Fault
  | malformed
  | notObject
  | beyond (l : Limit)
  deriving DecidableEq, Repr

def read (t : Text) : Except Fault (Keyed Json) :=
  match Json.read t with
  | .ok (.object fields) => .ok fields
  | .ok _ => .error .notObject
  | .error .malformed => .error .malformed
  | .error (.beyond l) => .error (.beyond l)

def render (layout : Json.Layout) (c : Catalog) : Text :=
  c.toJson.write layout 0

-- Two blanks for each level.
def defaultLayout : Json.Layout :=
  .indented 2

end Document
end TraitCatalog
