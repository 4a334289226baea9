import TraitCatalog.Files.Tree
import TraitCatalog.Payload.Document
import TraitCatalog.Payload.Format
import TraitCatalog.Payload.Outside
import TraitCatalog.Payload.Script
import TraitCatalog.Schema.Bundled

namespace TraitCatalog

inductive LoadError
  | file (path : Path) (fault : FileFault)
  | script (context : Text) (fault : Script.Fault)
  | document (context : Text) (fault : Document.Fault)
  | schema (path : Path) (fault : Document.Fault)
  | unusable (fault : SchemaFault)
  | violation (source : Text) (v : Violation)
  | flaw (f : Flaw)

namespace LoadError

def documentMessage (context words : Text) : Document.Fault → Text
  | .malformed => context ++ ": failed to parse " ++ words
  | .notObject => context ++ ": expected a JSON object"
  | .beyond l => context ++ ": " ++ l.message

def scriptMessage (context : Text) : Script.Fault → Text
  | .notScript => context ++ ": not an implementors payload script"
  | .unexpectedStatement n => context ++ ":" ++ Text.ofNat n ++ ": unexpected statement"
  | .malformedLiteral n => context ++ ":" ++ Text.ofNat n ++ ": malformed implementors literal"
  | .beyond l => context ++ ": " ++ l.message

def message : LoadError → Text
  | file path fault => path.text ++ ": " ++ fault.message
  | script context fault => scriptMessage context fault
  | document context fault => documentMessage context "catalog JSON" fault
  | schema path fault => documentMessage path.text "JSON schema" fault
  | unusable fault => fault.message
  | violation source v => source ++ ": " ++ v.message
  | flaw f => f.message

end LoadError

namespace Payload

-- The catalog data that a text in the given form holds.
def read (context : Text) (t : Text) : Format → Except LoadError (Keyed Json)
  | .json => (Document.read t).mapError (.document context)
  | .script => (Script.read t).mapError (.script context)

def render (c : Catalog) : Format → Text
  | .json => Document.render Document.defaultLayout c
  | .script => Script.render c

def fieldsAt (tree : FileTree) (path : Path) (format : Format) : Except LoadError (Keyed Json) := do
  read path.text (← (tree.readText path).mapError (.file path)) format

def scriptCatalog (context t : Text) : Except LoadError Catalog := do
  (Catalog.ofFields context (← read context t .script)).mapError .flaw

end Payload

namespace Schema

def fieldsAt (tree : FileTree) (path : Path) : Except LoadError (Keyed Json) := do
  (Document.read (← (tree.readText path).mapError (.file path))).mapError (.schema path)

def readAt (tree : FileTree) (path : Path) : Except LoadError Schema := do
  (Schema.ofFields (← fieldsAt tree path)).mapError .unusable

def fileName : Text :=
  "implementors.schema.json"

end Schema

-- The first schema that a loader gets hold of is the one that it keeps.
structure Loader where
  -- The directory of the schema, if it is not the schema of all catalogs.
  schemaRoot : Option Path
  validates : Bool
  kept : Option Schema

namespace Loader

-- A loader that has no schema yet.
def new (schemaRoot : Option Path) (validates : Bool) : Loader :=
  ⟨schemaRoot, validates, none⟩

-- The schema that the loader checks with.
def schema (l : Loader) (tree : FileTree) : Except LoadError Schema :=
  match l.kept, l.schemaRoot with
  | some s, _ => .ok s
  | none, none => .ok Schema.catalog
  | none, some root => Schema.readAt tree (root.child Schema.fileName)

-- The loader after a validation.
def remember (l : Loader) (tree : FileTree) : Loader :=
  match l.schema tree with
  | .ok s => { l with kept := some s }
  | .error _ => l

-- Checks `v`, which is called `source` in messages.
def validate (l : Loader) (tree : FileTree) (source : Text) (v : Json) : Except LoadError Unit := do
  match (← l.schema tree).verdict tree.outside v with
  | .kept => return ()
  | .broken e => throw (.violation source e)
  | .unanswered f => throw (.unusable f)

-- The catalog data in the file at `path`, checked if the loader validates. The form is that of the
-- suffix if none is given.
def loadFields (l : Loader) (tree : FileTree) (path : Path) (format : Option Format) :
    Except LoadError (Keyed Json) := do
  let fields ← Payload.fieldsAt tree path (format.getD (.ofPath path))
  if l.validates then
    l.validate tree path.text (.object fields)
  return fields

def loadCatalog (l : Loader) (tree : FileTree) (path : Path) (format : Option Format) :
    Except LoadError Catalog := do
  (Catalog.ofFields path.text (← l.loadFields tree path format)).mapError .flaw

-- The loader after `loadFields` or `loadCatalog`: it has looked for its schema only if it came to
-- validate.
def afterLoad (l : Loader) (tree : FileTree) (path : Path) (format : Option Format) : Loader :=
  match l.validates, Payload.fieldsAt tree path (format.getD (.ofPath path)) with
  | true, .ok _ => l.remember tree
  | _, _ => l

theorem schema_remember {l : Loader} (h : l.schema tree = .ok s) (other : FileTree) :
    (l.remember tree).schema other = .ok s := by
  simp only [remember, h]
  rfl

end Loader
end TraitCatalog
