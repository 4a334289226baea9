import TraitCatalog.Schema.Rule
import TraitCatalog.Schema.Shape

namespace TraitCatalog
namespace Schema

def allBut (kind : Kind) : List Kind :=
  [.null, .boolean, .number, .string, .array, .object].filter (· ≠ kind)

-- The kind that an item of a list of types names.
def kindOf (v : Json) : Except SchemaFault Kind :=
  match v with
  | .string t =>
    match Kind.ofName? t with
    | some kind => .ok kind
    | none => .error .unknownKind
  | .array _ | .object _ => .error .wrongKind
  | _ => .error .unknownKind

-- What a list of types names up to the first item that names no kind.
def typeRule (named : List Kind) : List Json → Rule
  | [] => .type named
  | v :: vs =>
    match kindOf v with
    | .ok kind => typeRule (named ++ [kind]) vs
    | .error f => .unusable named f

def typeRules (v : Json) : List Rule :=
  match v with
  | .string _ => [typeRule [] [v]]
  | _ =>
    match elements? v with
    | some vs => [typeRule [] vs]
    | none => [.unusable [] .wrongKind]

-- The rules for each of a list of things, which concern values of one kind.
def eachRule (kind : Kind) (rule : Json → Rule) (v : Json) : List Rule :=
  match elements? v with
  | some vs => vs.map rule
  | none => [.unusable (allBut kind) .wrongKind]

-- The rules for each of the things under keys, which concern objects.
def tableRules (rules : Text → Json → List Rule) (v : Json) : List Rule :=
  match v with
  | .object fields => fields.flatMap fun (key, w) => rules key w
  | _ => [.unusable (allBut .object) .notSchema]

def itemRules (v : Json) : List Rule :=
  match elements? v with
  | some vs => vs.zipIdx.map fun (w, i) => .item i w
  | none => [.unusable (allBut .array) .wrongKind]

def requiredWithRules (present : Text) (v : Json) : List Rule :=
  match elements? v with
  | some vs => vs.map (.requiredWith present)
  | none => [.unusableWith present .wrongKind]

def boundRules (rule : Measure → Number → Rule) (m : Measure) (v : Json) : List Rule :=
  match v.bound? with
  | some b => [rule m b]
  | none => [.unusable (allBut m.kind) .wrongKind]

def rangeRules (c : Comparison) (v : Json) : List Rule :=
  if v.bound?.isSome then [.inRange c v] else [.unusable (allBut .number) .wrongKind]

def choiceRules (rule : List Json → Rule) (v : Json) : List Rule :=
  match elements? v with
  | some vs => [rule vs]
  | none => [.unusable [] .wrongKind]

def referenceRules (v : Json) : List Rule :=
  match v with
  | .string reference => [.refer reference]
  | _ => [.unusable [] .notSchema]

def knownFields (fields : Keyed Json) : KnownFields where
  names := (fields.get? "properties").getD (.object [])
  patterns := fields.get? "patternProperties"

def otherFieldsRules (fields : Keyed Json) (v : Json) : List Rule :=
  match v with
  | .object _ => [.otherFields (knownFields fields) v]
  | _ =>
    if isVoid v then [.noOtherFields (knownFields fields)]
    else [.otherFields (knownFields fields) (.bool true)]

-- The items behind those that have schemas of their own.
def restRules (fields : Keyed Json) (v : Json) : List Rule :=
  match elements? ((fields.get? "prefixItems").getD (.array [])) with
  | none => [.unusable (allBut .array) .wrongKind]
  | some vs =>
    match v with
    | .bool false => [.noItems vs.length]
    | _ => [.items vs.length v]

-- Types may be schemas in the draft 3.
def earlyTypeRules (v : Json) : List Rule :=
  match v with
  | .string _ => [.typeAmong [v]]
  | _ =>
    match elements? v with
    | some vs => [.typeAmong vs]
    | none => [.unusable [] .wrongKind]

def disallowedRules (v : Json) : List Rule :=
  match v with
  | .string _ => [.disallowed v]
  | _ =>
    match elements? v with
    | some vs => vs.map .disallowed
    | none => [.unusable [] .wrongKind]

def allRules (v : Json) : List Rule :=
  match elements? v with
  | some vs => vs.map .keeps
  | none => [.unusable [] .wrongKind]

def extendsRules (v : Json) : List Rule :=
  match v with
  | .object _ => [.keeps v]
  | _ => allRules v

-- A field tells itself whether it has to be there.
def earlyFieldRules (key : Text) (schema : Json) : List Rule :=
  match schema with
  | .object fields =>
    if (Keyed.get? fields "required").any (!isVoid ·) then [.field key schema, .required (.string key)]
    else [.field key schema]
  | _ => [.field key schema, .unusableWithout key .notSchema]

def dependencyRules (d : Dialect) (present : Text) (v : Json) : List Rule :=
  match v with
  | .array _ => requiredWithRules present v
  | .object _ => [.schemaWith present v]
  | .string _ => if d = .draft3 then [.requiredWith present v] else [.schemaWith present v]
  | _ => if d = .draft3 then requiredWithRules present v else [.schemaWith present v]

-- Items that stand in a list have a schema each; otherwise one schema is for all of them.
def itemsRules (d : Dialect) (v : Json) : List Rule :=
  match v with
  | .array _ => itemRules v
  | .object _ => [.items 0 v]
  | _ => if d.isFrom .draft6 then [.items 0 v] else itemRules v

def additionalItemsRules (fields : Keyed Json) (v : Json) : List Rule :=
  match fields.get? "items" with
  | none | some (.object _) => []
  | some items =>
    match elements? items with
    | none => [.unusable (allBut .array) .wrongKind]
    | some vs =>
      match v with
      | .object _ => [.items vs.length v]
      | _ => if isVoid v then [.noAdditionalItems vs.length] else []

-- A limit that another keyword may leave out itself.
def earlyRangeRules (inclusive exclusive : Comparison) (keyword : Text) (fields : Keyed Json)
    (v : Json) : List Rule :=
  if (fields.get? keyword).any (!isVoid ·) then rangeRules exclusive v
  else rangeRules inclusive v

def patternRules (v : Json) : List Rule :=
  match v with
  | .string t => [.like t]
  | _ => [.unusable (allBut .string) .wrongKind]

def multipleRules (v : Json) : List Rule :=
  if v.bound?.isSome then [.multiple v] else [.unusable (allBut .number) .wrongKind]

def amongRules (v : Json) : List Rule :=
  if (elements? v).isSome then [.among v] else [.unusable [] .wrongKind]

-- A keyword with the dialects that have it: the rules that it sets, given all fields of the schema.
structure Keyword where
  name : Text
  first : Dialect
  last : Dialect
  rules : Keyed Json → Json → List Rule

def keywords : List Keyword :=
  [⟨"type", .draft4, .draft2020, fun _ => typeRules⟩,
   ⟨"type", .draft3, .draft3, fun _ => earlyTypeRules⟩,
   ⟨"required", .draft4, .draft2020, fun _ => eachRule .object .required⟩,
   ⟨"properties", .draft4, .draft2020, fun _ => tableRules fun key w => [.field key w]⟩,
   ⟨"properties", .draft3, .draft3, fun _ => tableRules earlyFieldRules⟩,
   ⟨"additionalProperties", .draft3, .draft2020, otherFieldsRules⟩,
   ⟨"items", .draft2020, .draft2020, restRules⟩,
   ⟨"items", .draft6, .draft2019, fun _ => itemsRules .draft6⟩,
   ⟨"items", .draft3, .draft4, fun _ => itemsRules .draft3⟩,
   ⟨"minItems", .draft3, .draft2020, fun _ => boundRules .atLeast .items⟩,
   ⟨"minLength", .draft3, .draft2020, fun _ => boundRules .atLeast .length⟩,
   ⟨"maxItems", .draft3, .draft2020, fun _ => boundRules .atMost .items⟩,
   ⟨"maxLength", .draft3, .draft2020, fun _ => boundRules .atMost .length⟩,
   ⟨"minProperties", .draft4, .draft2020, fun _ => boundRules .atLeast .properties⟩,
   ⟨"maxProperties", .draft4, .draft2020, fun _ => boundRules .atMost .properties⟩,
   ⟨"patternProperties", .draft3, .draft2020, fun _ => tableRules fun key w => [.fieldsLike key w]⟩,
   ⟨"propertyNames", .draft6, .draft2020, fun _ v => [.fieldNames v]⟩,
   ⟨"dependentRequired", .draft2019, .draft2020, fun _ => tableRules requiredWithRules⟩,
   ⟨"dependentSchemas", .draft2019, .draft2020, fun _ => tableRules fun key w => [.schemaWith key w]⟩,
   ⟨"dependencies", .draft4, .draft7, fun _ => tableRules (dependencyRules .draft4)⟩,
   ⟨"dependencies", .draft3, .draft3, fun _ => tableRules (dependencyRules .draft3)⟩,
   ⟨"prefixItems", .draft2020, .draft2020, fun _ => itemRules⟩,
   ⟨"additionalItems", .draft3, .draft2019, additionalItemsRules⟩,
   ⟨"contains", .draft2019, .draft2020, fun fields v =>
     [.someItems v (fields.get? "minContains") (fields.get? "maxContains")]⟩,
   ⟨"contains", .draft6, .draft7, fun _ v => [.someItem v]⟩,
   ⟨"uniqueItems", .draft3, .draft2020, fun _ v => if isVoid v then [] else [.noRepetition]⟩,
   ⟨"pattern", .draft3, .draft2020, fun _ => patternRules⟩,
   ⟨"minimum", .draft6, .draft2020, fun _ => rangeRules .atLeast⟩,
   ⟨"minimum", .draft3, .draft4, earlyRangeRules .atLeast .above "exclusiveMinimum"⟩,
   ⟨"maximum", .draft6, .draft2020, fun _ => rangeRules .atMost⟩,
   ⟨"maximum", .draft3, .draft4, earlyRangeRules .atMost .below "exclusiveMaximum"⟩,
   ⟨"exclusiveMinimum", .draft6, .draft2020, fun _ => rangeRules .above⟩,
   ⟨"exclusiveMaximum", .draft6, .draft2020, fun _ => rangeRules .below⟩,
   ⟨"multipleOf", .draft4, .draft2020, fun _ => multipleRules⟩,
   ⟨"divisibleBy", .draft3, .draft3, fun _ => multipleRules⟩,
   ⟨"enum", .draft3, .draft2020, fun _ => amongRules⟩,
   ⟨"const", .draft6, .draft2020, fun _ v => [.constant v]⟩,
   ⟨"allOf", .draft4, .draft2020, fun _ => allRules⟩,
   ⟨"extends", .draft3, .draft3, fun _ => extendsRules⟩,
   ⟨"anyOf", .draft4, .draft2020, fun _ => choiceRules .keepsAny⟩,
   ⟨"oneOf", .draft4, .draft2020, fun _ => choiceRules .keepsOne⟩,
   ⟨"not", .draft4, .draft2020, fun _ v => [.excludes v]⟩,
   ⟨"disallow", .draft3, .draft3, fun _ => disallowedRules⟩,
   ⟨"if", .draft7, .draft2020, fun fields v => [.ifKept v (fields.get? "then") (fields.get? "else")]⟩,
   ⟨"$ref", .draft3, .draft2020, fun _ => referenceRules⟩,
   ⟨"$dynamicRef", .draft2020, .draft2020, fun _ => referenceRules⟩,
   ⟨"$recursiveRef", .draft2019, .draft2019, fun _ _ => [.recur]⟩,
   ⟨"unevaluatedItems", .draft2019, .draft2020, fun _ _ => [.noUnevaluatedItems]⟩,
   ⟨"unevaluatedProperties", .draft2019, .draft2020, fun _ v => [.unevaluatedFields v]⟩]

-- The rules that a keyword sets in a dialect.
def rulesOf (d : Dialect) (fields : Keyed Json) (keyword : Text) (v : Json) : List Rule :=
  match keywords.find? fun k => k.name = keyword && d.isWithin k.first k.last with
  | some k => k.rules fields v
  | none => []

-- The fields of a schema that count. Up to the draft 7 a reference lets nothing else count.
def countedFields (d : Dialect) (fields : Keyed Json) : Keyed Json :=
  match fields.get? "$ref" with
  | none | some .null => fields
  | some v => if d.isFrom .draft2019 then fields else [("$ref", v)]

def rulesIn (d : Dialect) (fields : Keyed Json) : List Rule :=
  (countedFields d fields).flatMap fun (keyword, v) => rulesOf d fields keyword v

end Schema
end TraitCatalog
