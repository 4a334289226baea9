import TraitCatalog.Schema.Findings
import TraitCatalog.Schema.Known
import TraitCatalog.Schema.Reference

namespace TraitCatalog
namespace Schema

-- The scope of a schema in the dialect that it names, if that is a known one.
def speak (scope : Scope) (schema : Json) : Except SchemaFault Scope :=
  match schema with
  | .object fields =>
    match Keyed.get? fields "$schema" with
    | none => .ok scope
    | some (.string t) =>
      match Address.read? [] t with
      | some a => .ok { scope with dialect := (Dialect.ofAddress? a.text).getD scope.dialect }
      | none => .error .malformedAddress
    | some (.array _) | some (.object _) => .error .wrongKind
    | some v => if isVoid v then .ok scope else .error .notSchema
  | .bool _ => .ok scope
  | .string t => if isPartOf "$schema" t then .error .wrongKind else .ok scope
  | .array vs => if vs.any (·.string? = some "$schema") then .error .wrongKind else .ok scope
  | .null | .int _ | .float _ => .error .wrongKind

-- How to check inside of a check.
structure Checker where
  -- The findings of a schema on a value.
  check : Scope → (schema : Json) → Json → Findings
  -- The same by way of a reference, or for no more than whether there are some; this goes deeper.
  checkBeyond : Scope → (schema : Json) → Json → Findings
  -- The numbers of the items of an array that a schema says something of.
  evaluatedItems : Scope → (schema : Json) → List Json → Except SchemaFault (List Nat)
  -- The keys of the fields of an object that a schema says something of.
  evaluatedKeys : Scope → (schema : Json) → Keyed Json → Except SchemaFault (List Text)

namespace Checker

-- The findings of a schema that stands inside of another one.
def checkInside (c : Checker) (scope : Scope) (schema v : Json) : Findings :=
  match schema with
  | .bool _ => c.check scope schema v
  | _ =>
    .ofExcept do
      match ← ownAddress? scope.dialect schema with
      | some id => return c.check (← scope.enter id) schema v
      | none => return c.check scope schema v

-- The findings of one schema on each of some values.
def checkEach (c : Checker) (scope : Scope) (schema : Json) (vs : List Json) : Findings :=
  .ofEach (c.checkInside scope schema) vs

def keeps (c : Checker) (scope : Scope) (schema v : Json) : Except SchemaFault Bool :=
  (c.checkBeyond scope schema v).isClean

def keepsInside (c : Checker) (scope : Scope) (schema v : Json) : Except SchemaFault Bool :=
  (c.checkInside scope schema v).isClean

-- How many of the values keep the schema. The count ends where it passes the bound.
def countKept (c : Checker) (scope : Scope) (schema : Json) (passes : Nat → Except SchemaFault Bool) :
    (count : Nat) → List Json → Except SchemaFault (Nat × Bool)
  | count, [] => .ok (count, false)
  | count, v :: vs => do
    if ← c.keeps scope schema v then
      if ← passes (count + 1) then
        return (count + 1, true)
      countKept c scope schema passes (count + 1) vs
    else
      countKept c scope schema passes count vs

def bound (v : Json) : Except SchemaFault Number :=
  match v.bound? with
  | some b => .ok b
  | none => .error .wrongKind

-- Whether a value is of one of some types. A schema that it keeps counts as one of its types.
def isOfType (c : Checker) (scope : Scope) (v : Json) : List Json → Except SchemaFault Bool
  | [] => .ok false
  | type :: types => do
    if ← isOf type then return true else isOfType c scope v types
where
  isOf (type : Json) : Except SchemaFault Bool :=
    match type with
    | .object _ => (c.checkInside scope type v).isCleanThroughout
    | _ =>
      if type.string? = some "any" then .ok true
      else (kindOf type).map (·.holds scope.dialect v)

def someItems (c : Checker) (scope : Scope) (schema : Json) (least most : Option Json)
    (vs : List Json) : Findings :=
  .ofExcept do
    let _ ← speak scope schema
    let passes (count : Nat) : Except SchemaFault Bool :=
      match most with
      | none => .ok false
      | some most => return (← bound most).less (.whole count)
    let (count, passed) ← countKept c scope schema passes 0 vs
    if passed then
      return .violation (.manySuchItems (most.getD .null))
    let least := least.getD (.int 1)
    if !(Number.whole count).less (← bound least) then
      return .none
    if count = 0 then
      return .violation (.noSuchItem (.array vs))
    return .violation (.fewSuchItems least count)

-- The first schema that a value keeps, with all violations of those in front of it looked for, and the
-- schemas behind it.
def firstKept (c : Checker) (scope : Scope) (v : Json) :
    List Json → Except SchemaFault (Option (Json × List Json))
  | [] => .ok none
  | schema :: rest => do
    if ← (c.checkInside scope schema v).isCleanThroughout then
      return some (schema, rest)
    firstKept c scope v rest

def keepsOne (c : Checker) (scope : Scope) (schemas : List Json) (v : Json) : Findings :=
  .ofExcept do
    match ← c.firstKept scope v schemas with
    | none => return .violation (.noChoice v)
    | some (first, rest) =>
      let more ← rest.filterM fun schema => c.keeps scope schema v
      return .violationIf (!more.isEmpty) (.manyChoices v (more ++ [first]))

-- Which schema of a condition counts for a value.
def branch? (c : Checker) (scope : Scope) (condition : Json) (thenSchema elseSchema : Option Json)
    (v : Json) : Except SchemaFault (Option Json) := do
  return if ← c.keeps scope condition v then thenSchema else elseSchema

-- The keys of unevaluated fields, each one once for each of its violations.
def unevaluatedKeys (c : Checker) (scope : Scope) (schema : Json) (evaluated : List Text) :
    Keyed Json → Except SchemaFault (List Text)
  | [] => .ok []
  | (key, v) :: fields => do
    let violations ← if evaluated.contains key then pure [] else (c.checkInside scope schema v).all
    return violations.map (fun _ => key) ++ (← unevaluatedKeys c scope schema evaluated fields)

end Checker

end Schema
end TraitCatalog
