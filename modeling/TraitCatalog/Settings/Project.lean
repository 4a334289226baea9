import TraitCatalog.Files.Tree
import TraitCatalog.Settings.Basic
import TraitCatalog.Toml.Reader

namespace TraitCatalog
namespace Settings

inductive ProjectError
  | invalid (issues : List Issue)
  -- The project file is no TOML.
  | unreadable (path : Path)
  -- The settings are no table.
  | sectionNotTable (path : Path)
  -- What should hold the settings is no table.
  | toolNotTable
  | beyond (l : Limit)
  | file (path : Path) (fault : FileFault)
  deriving DecidableEq, Repr

def projectFile : Text := "pyproject.toml"

def sectionName : Text := "doc-implementors"

namespace ProjectError

def countIssues (n : Nat) : Text :=
  Text.ofNat n ++ (if n = 1 then " validation error" else " validation errors")

-- The first line of what the error says.
def message : ProjectError → Text
  | invalid issues =>
    "invalid [tool." ++ sectionName ++ "] configuration: " ++ countIssues issues.length ++
      " for CatalogConfig"
  | unreadable path => "failed to parse " ++ path.text
  | sectionNotTable path => "[tool." ++ sectionName ++ "] in " ++ path.text ++ " must be a table"
  | toolNotTable => "[tool] must be a table"
  | beyond l => l.message
  | file path fault => path.text ++ ": " ++ fault.message

end ProjectError

-- The values that the project file at `path` gives; none if there is no such file.
def fileValues (tree : FileTree) (path : Path) : Except ProjectError (Keyed Value) := do
  let some (.file bytes) ← (tree.find path).mapError (.file path) | return []
  let some t := Text.ofUtf8? bytes | throw (.file path .undecodable)
  match Toml.read t with
  | .error .malformed => throw (.unreadable path)
  | .error (.beyond l) => throw (.beyond l)
  | .ok document =>
    match document.get? "tool" with
    | none => return []
    | some (.table tool) =>
      match Keyed.get? tool sectionName with
      | none => return []
      | some (.table fields) => return Keyed.mapValues Value.ofToml fields
      | some _ => throw (.sectionNotTable path)
    | some _ => throw .toolNotTable

-- The name of the setting that a key means.
def settingName (key : Text) : Text :=
  key.map fun c => if c.is '-' then '_' else c

-- Values under the names of their settings. Of two keys for one setting the later one counts.
def normalise (values : Keyed Value) : Keyed Value :=
  Keyed.ofPairs (values.map fun (key, v) => (settingName key, v))

-- The overrides that do not leave a setting as it is.
def effective (overrides : Keyed Value) : Keyed Value :=
  overrides.filter fun (_, v) => v ≠ .null

-- The settings with their paths seen from `root`.
def locate (s : Settings) (root : Path) : Settings :=
  { s with payloadDir := root.join s.payloadDir, schemaRoot := s.schemaRoot.map root.join }

def load (tree : FileTree) (root : Path) (overrides : Keyed Value) : Except ProjectError Settings := do
  let values ← fileValues tree (root.child projectFile)
  let s ← (ofValues (normalise (values.update (effective overrides)))).mapError .invalid
  return s.locate root

end Settings
end TraitCatalog
