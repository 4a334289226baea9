import TraitCatalog.Catalog.Flaw
import TraitCatalog.Markup.References
import TraitCatalog.Markup.Tags

namespace TraitCatalog

-- One implementation of a trait.
structure Implementor where
  -- The signature, a fragment of HTML that is kept as it is.
  text : Text
  -- The implementation was made by the compiler.
  synthetic : Bool
  -- The identifiers that name the implementing type.
  path : List Text
  path_ne_nil : path ≠ []
  nil_not_mem_path : [] ∉ path
  deriving DecidableEq, Repr

namespace Implementor

def make (text : Text) (synthetic : Bool) (path : List Text) : Except Flaw Implementor :=
  if hn : path = [] then .error (.noIdentifier text)
  else if he : [] ∈ path then .error (.emptyIdentifier text)
  else .ok ⟨text, synthetic, path, hn, he⟩

theorem make_eq_ok (d : Implementor) : make d.text d.synthetic d.path = .ok d := by
  simp [make, d.path_ne_nil, d.nil_not_mem_path]

-- The fields of an implementor, in the order in which they are written.
def toFields (d : Implementor) : Keyed Json :=
  [("text", .string d.text), ("synthetic", .bool d.synthetic), ("types", .strings d.path)]

def toJson (d : Implementor) : Json :=
  .object d.toFields

-- The implementor with the given fields. Other fields do not matter.
def ofFields (context : Text) (fields : Keyed Json) : Except Flaw Implementor := do
  let field (key : Text) : Json := (fields.get? key).getD .null
  let text ← (field "text").expectString context "text"
  let synthetic ← (field "synthetic").expectBool context "synthetic"
  let path ← (field "types").expectStrings context "types"
  if path.isEmpty then
    throw (.unexpected context "types" .nonemptyArray)
  match path.findIdx? List.isEmpty with
  | some index => throw (.unexpected context (itemPlace "types" index) .nonemptyString)
  | none => make text synthetic path

def plainText (d : Implementor) : Except Markup.ReferenceError Text :=
  Markup.decode (Markup.removeTags d.text)

def qualifiedName (d : Implementor) : Text :=
  Text.join "::" d.path

def typeName (d : Implementor) : Text :=
  d.qualifiedName.afterLastSeparator

def crateName (d : Implementor) : Text :=
  d.qualifiedName.beforeSeparator

end Implementor
end TraitCatalog
