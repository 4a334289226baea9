import TraitCatalog.Schema.Basic
import TraitCatalog.Schema.Dialect

namespace TraitCatalog
namespace Schema

-- Values that stand for nothing where something is asked for.
def isVoid : Json → Bool
  | .null => true
  | .bool b => !b
  | .int n => n = 0
  | .float x => x.isZero
  | .string t => t.isEmpty
  | .array vs => vs.isEmpty
  | .object fields => fields.isEmpty

-- What stands under a keyword: a schema, a list of schemas, or schemas under keys.
inductive Shape
  | one
  | list
  | table
  deriving DecidableEq, Repr

structure Holder where
  keyword : Text
  shape : Shape
  first : Dialect
  last : Dialect

def holders : List Holder :=
  [⟨"additionalItems", .one, .draft3, .draft2019⟩,
   ⟨"additionalProperties", .one, .draft3, .draft2020⟩,
   ⟨"contains", .one, .draft6, .draft2020⟩,
   ⟨"contentSchema", .one, .draft2019, .draft2020⟩,
   ⟨"else", .one, .draft7, .draft2020⟩,
   ⟨"if", .one, .draft7, .draft2020⟩,
   ⟨"items", .one, .draft2020, .draft2020⟩,
   ⟨"not", .one, .draft4, .draft2020⟩,
   ⟨"propertyNames", .one, .draft6, .draft2020⟩,
   ⟨"then", .one, .draft7, .draft2020⟩,
   ⟨"unevaluatedItems", .one, .draft2019, .draft2020⟩,
   ⟨"unevaluatedProperties", .one, .draft2019, .draft2020⟩,
   ⟨"allOf", .list, .draft4, .draft2020⟩,
   ⟨"anyOf", .list, .draft4, .draft2020⟩,
   ⟨"extends", .list, .draft3, .draft3⟩,
   ⟨"oneOf", .list, .draft4, .draft2020⟩,
   ⟨"prefixItems", .list, .draft2020, .draft2020⟩,
   ⟨"$defs", .table, .draft2019, .draft2020⟩,
   ⟨"definitions", .table, .draft3, .draft2020⟩,
   ⟨"dependentSchemas", .table, .draft2019, .draft2020⟩,
   ⟨"patternProperties", .table, .draft3, .draft2020⟩,
   ⟨"properties", .table, .draft3, .draft2020⟩]

def shape? (d : Dialect) (keyword : Text) : Option Shape :=
  (holders.find? fun h => h.keyword = keyword && d.isWithin h.first h.last).map (·.shape)

-- Whether both single schemas and several ones may stand under a keyword.
def isMixed (d : Dialect) (keyword : Text) : Bool :=
  (keyword = "items" && !d.isFrom .draft2020) || (keyword = "dependencies" && !d.isFrom .draft2019)

-- What a list of schemas goes through: items, or keys, or the characters of a text.
def elements? : Json → Option (List Json)
  | .array vs => some vs
  | .object fields => some (fields.map fun (key, _) => .string key)
  | .string t => some (t.map fun c => .string [c])
  | _ => none

def mixedItems : Json → List Json
  | .null => []
  | .array vs => vs
  | .string t => t.map fun c => .string [c]
  | v => [v]

-- Dependencies are schemas if the first one is.
def mixedDependencies : Json → Except SchemaFault (List Json)
  | .null => .ok []
  | .object ((_, .object fields) :: rest) => .ok (.object fields :: rest.map Prod.snd)
  | .object _ => .ok []
  | _ => .error .notSchema

-- The schemas under a keyword. Up to the draft 4 items and fields may be allowed or not without a schema.
def inside (d : Dialect) (keyword : Text) (v : Json) : Except SchemaFault (List Json) :=
  match shape? d keyword with
  | some .one =>
    .ok (if d.isFrom .draft6 || keyword = "not" || v.object?.isSome then [v] else [])
  | some .list =>
    match elements? v with
    | some vs => .ok vs
    | none => .error .wrongKind
  | some .table =>
    match v with
    | .object fields => .ok (fields.map Prod.snd)
    | _ => .error .notSchema
  | none =>
    if !isMixed d keyword then .ok []
    else if keyword = "items" then .ok (mixedItems v)
    else mixedDependencies v

end Schema
end TraitCatalog
