import TraitCatalog.Json.Same
import TraitCatalog.Schema.Evaluated
import TraitCatalog.Schema.Multiple

namespace TraitCatalog
namespace Schema

def missing (fields : Keyed Json) (key : Json) (v : Violation) : Findings :=
  match key with
  | .string t => .violationIf (!fields.contains t) v
  | .array _ | .object _ => .fault .wrongKind
  | _ => .violation v

-- The findings of a rule on an object.
def objectFindings (c : Checker) (scope : Scope) (whole : Json) (fields : Keyed Json) : Rule → Findings
  | .unusableWith present f => if fields.contains present then .fault f else .none
  | .unusableWithout absent f => if fields.contains absent then .none else .fault f
  | .required key => missing fields key (.missing key)
  | .requiredWith present key =>
    if fields.contains present then missing fields key (.missingWith key present) else .none
  | .field key schema =>
    match fields.get? key with
    | some v => c.checkInside scope schema v
    | none => .none
  | .fieldsLike pattern schema =>
    .ofEach (fun (key, v) => .ofExcept do
      return if ← isLike pattern key then c.checkInside scope schema v else .none) fields
  | .fieldNames schema => c.checkEach scope schema (fields.keys.map .string)
  | .otherFields known schema => .ofExcept do
    return c.checkEach scope schema ((← known.others fields).map Prod.snd)
  | .noOtherFields known => .ofExcept do
    let keys := (← known.others fields).keys.mergeSort Text.le
    if keys.isEmpty then return .none
    if known.patterns.isNone then return .violation (.unexpected keys)
    return .violation (.unmatched keys ((← known.patternTexts).mergeSort Text.le))
  | .schemaWith present schema =>
    if fields.contains present then c.checkInside scope schema (.object fields) else .none
  | .unevaluatedFields schema => .ofExcept do
    let keys ← c.unevaluatedKeys scope schema (← c.evaluatedKeys scope whole fields) fields
    if keys.isEmpty then return .none
    match schema with
    | .bool false => return .violation (.unevaluatedFields (keys.mergeSort Text.le) true)
    | _ => return .violation (.unevaluatedFields keys false)
  | _ => .none

-- The findings of a rule on an array.
def arrayFindings (c : Checker) (scope : Scope) (whole : Json) (vs : List Json) : Rule → Findings
  | .item index schema =>
    match vs[index]? with
    | some v => c.checkInside scope schema v
    | none => .none
  | .items first schema => c.checkEach scope schema (vs.drop first)
  | .noItems first => .violationIf (first < vs.length) (.surplus (vs.drop first) first)
  | .noAdditionalItems first =>
    .violationIf (first < vs.length) (.additionalItems (vs.drop first))
  | .someItem schema => .ofExcept do
    return .violationIf (!(← vs.anyM (c.keeps scope schema))) (.noValidItem (.array vs))
  | .someItems schema least most => c.someItems scope schema least most vs
  | .noRepetition => .violationIf (Json.hasRepetition vs) (.repetition (.array vs))
  | .noUnevaluatedItems => .ofExcept do
    let evaluated ← c.evaluatedItems scope whole vs
    let rest := vs.zipIdx.filter fun (_, i) => !evaluated.contains i
    return .violationIf (!rest.isEmpty) (.unevaluatedItems (rest.map Prod.fst))
  | _ => .none

-- The findings of a rule on a number.
def numberFindings (v : Json) (n : Number) : Rule → Findings
  | .inRange comparison limit =>
    .violationIf (limit.bound?.any (comparison.isBroken n)) (.outOfRange v comparison limit)
  | .multiple divisor => .ofExcept do
    match divisor.bound? with
    | some d => return .violationIf (!(← isMultiple n d)) (.notMultiple v divisor)
    | none => throw .wrongKind
  | _ => .none

def unresolved : SchemaFault → SchemaFault
  | .dangling _ => .unresolved
  | f => f

-- The findings of a rule that concerns values of all kinds, and of those that concern one kind.
def ruleFindings (s : Schema) (outside : Outside) (c : Checker) (scope : Scope) (whole : Json) (r : Rule) (v : Json) :
    Findings :=
  match r, v with
  | .unusable spared f, v => if spared.any (·.holds scope.dialect v) then .none else .fault f
  | .type kinds, v => .violationIf (!kinds.any (·.holds scope.dialect v)) (.wrongType v kinds)
  | .typeAmong types, v => .ofExcept do
    return .violationIf (!(← c.isOfType scope v types)) (.wrongTypes v types)
  | .disallowed type, v => .ofExcept do
    return .violationIf (← c.isOfType scope v [type]) (.disallowed v type)
  | .atLeast m b, v =>
    .violationIf ((m.count? v).any fun k => (Number.whole k).less b) (.tooSmall v m b)
  | .atMost m b, v =>
    .violationIf ((m.count? v).any fun k => b.less (.whole k)) (.tooLarge v m b)
  | .among allowed, v =>
    .violationIf (!((elements? allowed).getD []).any fun w => w.same false v) (.notAmong v allowed)
  | .constant expected, v => .violationIf (!v.same false expected) (.notConstant expected)
  | .keeps schema, v => c.checkInside scope schema v
  | .keepsAny schemas, v => .ofExcept do
    return .violationIf (← c.firstKept scope v schemas).isNone (.noChoice v)
  | .keepsOne schemas, v => c.keepsOne scope schemas v
  | .excludes schema, v => .ofExcept do
    return .violationIf (← c.keeps scope schema v) (.excluded v schema)
  | .ifKept condition thenSchema elseSchema, v => .ofExcept do
    match ← c.branch? scope condition thenSchema elseSchema v with
    | some schema => return c.checkInside scope schema v
    | none => return .none
  | .refer reference, v => .ofExcept do
    let (target, schema) ← (s.resolve outside scope reference).mapError unresolved
    return c.checkBeyond target schema v
  | .recur, v => .ofExcept do
    let (target, schema) ← s.resolveRecursive outside scope
    return c.checkBeyond target schema v
  | .like pattern, .string t => .ofExcept do
    return .violationIf (!(← isLike pattern t)) (.unlike v pattern)
  | r, .object fields => objectFindings c scope whole fields r
  | r, .array vs => arrayFindings c scope whole vs r
  | r, .int n => numberFindings v (.whole n) r
  | r, .float x => numberFindings v (.real x) r
  | _, _ => .none

-- The findings of all rules that the fields of a schema set.
def rulesFindings (s : Schema) (outside : Outside) (c : Checker) (scope : Scope) (fields : Keyed Json)
    (v : Json) : Findings :=
  .ofEach (fun r => s.ruleFindings outside c scope (.object fields) r v) (rulesIn scope.dialect fields)

def schemaFindings (s : Schema) (outside : Outside) (c : Checker) (scope : Scope) (schema v : Json) :
    Findings :=
  match schema with
  | .bool true => .none
  | .bool false => .violation (.forbidden v)
  | .object fields => .ofExcept do
    return s.rulesFindings outside c (← speak scope schema) fields v
  | schema => .ofExcept do
    let _ ← speak scope schema
    throw .notSchema

-- Checks that may stand in each other up to a depth.
def checker (s : Schema) (outside : Outside) : (depth : Nat) → Checker
  | depth + 3 =>
    { check := fun scope schema v =>
        s.schemaFindings outside (s.checker outside (depth + 1)) scope schema v
      checkBeyond := fun scope schema v =>
        s.schemaFindings outside (s.checker outside depth) scope schema v
      evaluatedItems := fun scope schema vs =>
        s.evaluatedItems outside (s.checker outside (depth + 1)) scope schema vs
      evaluatedKeys := fun scope schema vs =>
        s.evaluatedKeys outside (s.checker outside (depth + 1)) scope schema vs }
  | _ =>
    { check := fun _ _ _ => .fault .tooDeep
      checkBeyond := fun _ _ _ => .fault .tooDeep
      evaluatedItems := fun _ _ _ => .error .tooDeep
      evaluatedKeys := fun _ _ _ => .error .tooDeep }

-- How deep checks may stand in each other. Like `Limit.mostContainers`, the number stands for one depth of calls.
def mostDepth : Nat := 985

def findings (s : Schema) (outside : Outside) (v : Json) : Findings :=
  s.rulesFindings outside (s.checker outside mostDepth) s.scope s.fields v

-- What a schema says of a value. The meaning of the keywords in each dialect is that of the definitions that lead up
-- to this one, and all that is said of loaders that validate rests on them.
def verdict (s : Schema) (outside : Outside) (v : Json) : Verdict :=
  (s.findings outside v).verdict

end Schema
end TraitCatalog
