import TraitCatalog.Schema.Checker

namespace TraitCatalog
namespace Schema

-- What the references of a schema say with `said`.
def saidByReferences (s : Schema) (outside : Outside) (said : Scope → Json → Except SchemaFault (List α))
    (scope : Scope) (fields : Keyed Json) : Except SchemaFault (List α) := do
  let keywords : List Text := if scope.dialect = .draft2020 then ["$ref", "$dynamicRef"] else ["$ref"]
  let found ← keywords.mapM fun keyword =>
    match fields.get? keyword with
    | none | some .null => return []
    | some (.string reference) => do
      let (target, schema) ← s.resolve outside scope reference
      said (← speak target schema) schema
    | some _ => throw .notSchema
  if scope.dialect = .draft2019 && fields.contains "$recursiveRef" then
    let (target, schema) ← s.resolveRecursive outside scope
    return found.flatten ++ (← said (← speak target schema) schema)
  return found.flatten

-- What the schemas of a condition say of a value.
def saidByCondition (c : Checker) (said : Json → Except SchemaFault (List α)) (scope : Scope)
    (fields : Keyed Json) (v : Json) : Except SchemaFault (List α) := do
  match fields.get? "if" with
  | none => return []
  | some condition =>
    if ← c.keeps scope condition v then
      let first ← said condition
      match fields.get? "then" with
      | some schema => return first ++ (← said schema)
      | none => return first
    else
      match fields.get? "else" with
      | some schema => said schema
      | none => return []

-- What those schemas of the lists say that a value keeps.
def saidByLists (c : Checker) (said : Json → Except SchemaFault (List α)) (scope : Scope)
    (fields : Keyed Json) (v : Json) : Except SchemaFault (List α) := do
  let found ← (["allOf", "oneOf", "anyOf"] : List Text).mapM fun keyword => do
    match elements? ((fields.get? keyword).getD (.array [])) with
    | none => throw .wrongKind
    | some schemas =>
      let found ← schemas.mapM fun schema => do
        if ← c.keepsInside scope schema v then said schema else return []
      return found.flatten
  return found.flatten

-- Whether a schema says something of all items, however many there are.
def saysOfAllItems (d : Dialect) (fields : Keyed Json) : Bool :=
  match fields.get? "items" with
  | none => false
  | some v => d = .draft2020 || v.object?.isSome || fields.contains "additionalItems"

def evaluatedItems (s : Schema) (outside : Outside) (c : Checker) (scope : Scope) (schema : Json)
    (vs : List Json) : Except SchemaFault (List Nat) := do
  match schema with
  | .bool _ => return []
  | .object fields =>
    if saysOfAllItems scope.dialect fields then
      return List.range vs.length
    let referred ← s.saidByReferences outside (fun target w => c.evaluatedItems target w vs) scope fields
    let keyword : Text := if scope.dialect = .draft2020 then "prefixItems" else "items"
    let front ← match elements? ((Keyed.get? fields keyword).getD (.array [])) with
      | some ws => pure (List.range ws.length)
      | none => throw .wrongKind
    let said (w : Json) := c.evaluatedItems scope w vs
    let conditional ← saidByCondition c said scope fields (.array vs)
    let kept ← (["contains", "unevaluatedItems"] : List Text).mapM fun keyword => do
      match Keyed.get? fields keyword with
      | none => return []
      | some w => return (← vs.zipIdx.filterM fun (v, _) => c.keeps scope w v).map Prod.snd
    let listed ← saidByLists c said scope fields (.array vs)
    return referred ++ front ++ conditional ++ kept.flatten ++ listed
  | _ => throw .notSchema

def evaluatedKeys (s : Schema) (outside : Outside) (c : Checker) (scope : Scope) (schema : Json)
    (vs : Keyed Json) : Except SchemaFault (List Text) := do
  match schema with
  | .bool _ => return []
  | .object fields =>
    let referred ← s.saidByReferences outside (fun target w => c.evaluatedKeys target w vs) scope fields
    let named := (((Keyed.get? fields "properties").bind Json.object?).getD []).keys
    let kept ← (["additionalProperties", "unevaluatedProperties"] : List Text).mapM fun keyword => do
      match Keyed.get? fields keyword with
      | none | some .null => return []
      | some w => return Keyed.keys (← vs.filterM fun (_, v) => c.keepsInside scope w v)
    let matching ← vs.keys.filterM fun key => do
      return (← (← (knownFields fields).patternTexts).mapM (isLike · key)).any id
    let said (w : Json) := c.evaluatedKeys scope w vs
    let dependent ← match Keyed.get? fields "dependentSchemas" with
      | none => pure []
      | some (.object table) => (table.filter fun (key, _) => vs.contains key).mapM fun (_, w) => said w
      | some _ => throw .notSchema
    let listed ← saidByLists c said scope fields (.object vs)
    let conditional ← saidByCondition c said scope fields (.object vs)
    return referred ++ named ++ kept.flatten ++ matching ++ dependent.flatten ++ listed ++ conditional
  | _ => throw .notSchema

end Schema
end TraitCatalog
