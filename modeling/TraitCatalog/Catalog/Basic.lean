import TraitCatalog.Implementor
import TraitCatalog.Json.Writer
import TraitCatalog.Text.Quoted

namespace TraitCatalog

-- The implementors of a trait, library by library, in the order in which they were declared.
structure Catalog where
  entries : Keyed (List Implementor)
  nodup_keys : entries.keys.Nodup
  deriving DecidableEq

namespace Catalog

def empty : Catalog :=
  ⟨[], List.nodup_nil⟩

-- A repeated library keeps its first place and has its last implementors.
def ofPairs (pairs : List (Text × List Implementor)) : Catalog :=
  ⟨Keyed.ofPairs pairs, Keyed.nodup_keys_ofPairs pairs⟩

def libraries (c : Catalog) : List Text :=
  c.entries.keys

def get? (c : Catalog) (library : Text) : Option (List Implementor) :=
  c.entries.get? library

-- Every implementor behind the name of its library.
def implementors (c : Catalog) : List (Text × Implementor) :=
  c.entries.flatMap fun (library, ds) => ds.map (library, ·)

def count (c : Catalog) : Nat :=
  c.implementors.length

-- The catalog as fields of a JSON object, one for each library.
def toFields (c : Catalog) : Keyed Json :=
  c.entries.mapValues fun ds => .array (ds.map Implementor.toJson)

def toJson (c : Catalog) : Json :=
  .object c.toFields

-- The same implementors under the same libraries, in whatever order of libraries.
def sameEntries (a b : Catalog) : Bool :=
  a.entries.length = b.entries.length &&
    a.entries.all fun (library, ds) => b.get? library = some ds

def outline (c : Catalog) : Text :=
  let sizes := c.entries.mapValues fun ds => Text.ofNat ds.length
  "ImplementorCatalog(" ++ Text.join ", " (sizes.map fun (l, n) => l ++ "=" ++ n) ++ ")"

-- The names of the libraries in one line, or a word for none.
def names (c : Catalog) : Text :=
  match Text.join ", " c.libraries with
  | [] => "<empty>"
  | t => t

-- The catalog whose libraries and implementors `fields` describes.
def ofFields (context : Text) (fields : Keyed Json) : Except Flaw Catalog :=
  return ofPairs (← fields.mapM library)
where
  library (field : Text × Json) : Except Flaw (Text × List Implementor) := do
    let (name, value) := field
    let items ← value.expectArray context name
    return (name, ← items.zipIdx.mapM (implementor name))
  implementor (name : Text) (item : Json × Nat) : Except Flaw Implementor := do
    let (v, index) := item
    let fields ← v.expectObject context (itemPlace name index)
    Implementor.ofFields (itemPlace (context ++ "[" ++ name.quoted ++ "]") index) fields

def ofJson (context : Text) (v : Json) : Except Flaw Catalog := do
  ofFields context (← v.expectObject context "<root>")

-- How data is called that comes from nowhere else.
def literalContext : Text :=
  "<literal>"

end Catalog
end TraitCatalog
