import TraitCatalog.Command.Session
import TraitCatalog.Files.Change

namespace TraitCatalog
namespace Command

-- The content of a file with the given payload: a document ends with a line feed.
def fileText (t : Text) : Format → Text
  | .script => t
  | .json => t ++ "\n"

-- Where the payload of the trait lies in the given form.
def defaultLocation (s : Settings) : Format → Path
  | .script => s.payloadPath
  | .json => s.payloadPath.withSuffix ".json"

def writeText (path : Path) (t : Text) : Command Unit := do
  let s ← get
  let (result, tree) := (Change.writeText path t).run s.tree
  set { s with tree := tree }
  ofExcept (.file path) result

-- The payload at `path` in another form, which is also written to `output` if that is given.
def render (s : Settings) (path : Path) (format : Format) (output : Option Path) : Command Text := do
  let c ← catalogAt s path
  let t := Payload.render c format
  if let some output := output then
    writeText output (fileText t format)
  return t

end Command
end TraitCatalog
