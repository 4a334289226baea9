import TraitCatalog.Json.Basic
import TraitCatalog.Schema.Dialect

namespace TraitCatalog
namespace Schema.Published

def ofType (name : Text) : Json :=
  .object [("type", .string name)]

def refer (reference : Text) : Json :=
  .object [("$ref", .string reference)]

-- Objects whose fields all keep one schema.
def table (schema : Json) : Json :=
  .object [("type", .string "object"), ("additionalProperties", schema)]

def anyOf (schemas : List Json) : Json :=
  .object [("anyOf", .array schemas)]

-- The published schema of a dialect. Up to the draft 7 its address ends with an empty name.
def document (d : Dialect) (fields : Keyed Json) : Json :=
  let address : Text := if d.isFrom .draft2019 then d.address else d.address ++ "#"
  let keyword : Text := if d.isFrom .draft6 then "$id" else "id"
  .object (("$schema", .string address) :: (keyword, .string address) :: fields)

def partAddress (d : Dialect) (name : Text) : Text :=
  d.folder ++ "meta/" ++ name

-- A part of the published schema of a dialect, with a mark that lets the whole take its place.
def part (d : Dialect) (mark : Text × Json) (name : Text) (properties defs : Keyed Json) : Json :=
  .object
    [("$schema", .string d.address), ("$id", .string (partAddress d name)), mark,
     ("type", .strings ["object", "boolean"]), ("properties", .object properties),
     ("$defs", .object defs)]

end Schema.Published
end TraitCatalog
