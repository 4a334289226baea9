import TraitCatalog.Files.Path

namespace TraitCatalog

inductive Format
  | json
  | script
  deriving DecidableEq, Repr

namespace Format

def name : Format → Text
  | json => "json"
  | script => "script"

-- Files with the suffix `.js`, in upper or lower case, are scripts; all others are documents.
def ofPath (p : Path) : Format :=
  if p.suffix.lower = Text.ofString ".js" then script else json

end Format
end TraitCatalog
