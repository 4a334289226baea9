import TraitCatalog.Pattern.Reader
import TraitCatalog.Schema.Reader

namespace TraitCatalog
namespace Schema

def patternOf (t : Text) : Except SchemaFault Pattern :=
  (Pattern.read t).mapError fun
    | .malformed => .malformedPattern
    | .tooMany => .tooLarge
    | .contradictory => .contradictoryPattern
    | .tooDeep => .tooDeep

def isLike (pattern t : Text) : Except SchemaFault Bool :=
  return (← patternOf pattern).isFoundIn t

-- Whether `part` stands somewhere in `t`.
def isPartOf (part : Text) : Text → Bool
  | [] => part.isEmpty
  | c :: t => (Text.after? part (c :: t)).isSome || isPartOf part t

end Schema

namespace KnownFields

open Schema

def patternTexts (known : KnownFields) : Except SchemaFault (List Text) :=
  match known.patterns with
  | none => .ok []
  | some v =>
    match (elements? v).bind (·.mapM Json.string?) with
    | some ts => .ok ts
    | none => .error .wrongKind

def hasName (known : KnownFields) (key : Text) : Except SchemaFault Bool :=
  match known.names with
  | .object fields => .ok (Keyed.contains fields key)
  | .array vs => .ok (vs.any fun v => v.string? = some key)
  | .string t => .ok (isPartOf key t)
  | _ => .error .wrongKind

-- The fields of an object that are not known. All patterns are choices of one.
def others (known : KnownFields) (fields : Keyed Json) : Except SchemaFault (Keyed Json) := do
  let pattern := Text.join "|" (← known.patternTexts)
  fields.filterM fun (key, _) => do
    if ← known.hasName key then return false
    if pattern.isEmpty then return true
    return !(← isLike pattern key)

end KnownFields

end TraitCatalog
