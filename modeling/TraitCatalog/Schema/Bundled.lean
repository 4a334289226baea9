import TraitCatalog.Schema.Check

namespace TraitCatalog
namespace Schema

-- An object with a list of implementors for each library.
def catalog : Schema where
  fields :=
    [("$schema", .string "https://json-schema.org/draft/2020-12/schema"),
     ("$id", .string address),
     ("title", .string "Trait implementors catalog"),
     ("description", .string "Mapping from library name to the ordered implementors of one trait."),
     ("type", .string "object"),
     ("additionalProperties", library),
     ("$defs", .object [("implementor", implementor)])]
  address := address
where
  address : Text := "https://blackcat.ca/schemas/doc-implementors/implementors.schema.json"
  library : Json := .object [("type", .string "array"), ("items", reference)]
  reference : Json := .object [("$ref", .string "#/$defs/implementor")]
  implementor : Json := .object
    [("type", .string "object"),
     ("required", .strings ["text", "synthetic", "types"]),
     ("additionalProperties", .bool false),
     ("properties", .object [("text", text), ("synthetic", synthetic), ("types", types)])]
  text : Json := .object
    [("type", .string "string"),
     ("description", .string "Formatted impl signature (HTML fragment).")]
  synthetic : Json := .object
    [("type", .string "boolean"),
     ("description", .string "True for compiler-synthesised impls.")]
  types : Json := .object
    [("type", .string "array"),
     ("minItems", .int 1),
     ("items", identifier),
     ("description", .string "Fully-qualified identifiers of the implementing type.")]
  identifier : Json := .object [("type", .string "string"), ("minLength", .int 1)]

end Schema
end TraitCatalog
