import TraitCatalog.Json.Display
import TraitCatalog.Schema.Basic

namespace TraitCatalog

-- How a value breaks a rule.
inductive Violation
  | forbidden (v : Json)
  | wrongType (v : Json) (kinds : List Kind)
  -- The types can be schemas, which have names.
  | wrongTypes (v : Json) (types : List Json)
  | disallowed (v type : Json)
  | missing (key : Json)
  | missingWith (key : Json) (present : Text)
  | unexpected (keys : List Text)
  | unmatched (keys patterns : List Text)
  | surplus (items : List Json) (most : Nat)
  | additionalItems (items : List Json)
  | tooSmall (v : Json) (m : Measure) (least : Number)
  | tooLarge (v : Json) (m : Measure) (most : Number)
  | outOfRange (v : Json) (c : Comparison) (limit : Json)
  | notMultiple (v divisor : Json)
  | repetition (v : Json)
  | unlike (v : Json) (pattern : Text)
  | notAmong (v allowed : Json)
  | notConstant (expected : Json)
  | noChoice (v : Json)
  | manyChoices (v : Json) (schemas : List Json)
  | excluded (v schema : Json)
  | noSuchItem (v : Json)
  | noValidItem (v : Json)
  | fewSuchItems (least : Json) (count : Nat)
  | manySuchItems (most : Json)
  | unevaluatedItems (items : List Json)
  | unevaluatedFields (keys : List Text) (forbidden : Bool)

namespace Violation

def tooSmallWords (m : Measure) (least : Number) : Text :=
  if least.same (.whole 1) then "should be non-empty"
  else match m with
    | .properties => "does not have enough properties"
    | _ => "is too short"

def tooLargeWords (m : Measure) (most : Number) : Text :=
  if most.same (.whole 0) then "is expected to be empty"
  else match m with
    | .properties => "has too many properties"
    | _ => "is too long"

-- The name of a schema in the place of a type, or else the type itself.
def typeName (type : Json) : Text :=
  match (type.object?.bind (Keyed.get? · "name")) with
  | some name => name.display
  | none => type.display

-- Some things that were not expected, in brackets.
def unexpectedWords (shown : List Text) : Text :=
  let verb : Text := if shown.length = 1 then "was" else "were"
  "(" ++ Text.join ", " shown ++ " " ++ verb ++ " unexpected)"

-- There is a message on every violation. To show values that are nested almost as deep as `Limit.mostContainers` can
-- be more than the calls that are left allow; this is not looked at here.
def message : Violation → Text
  | forbidden v => "False schema does not allow " ++ v.display
  | wrongType v kinds =>
    v.display ++ " is not of type " ++ Text.join ", " (kinds.map fun k => k.name.quoted)
  | wrongTypes v types => v.display ++ " is not of type " ++ Text.join ", " (types.map typeName)
  | disallowed v type => type.display ++ " is disallowed for " ++ v.display
  | missing key => key.display ++ " is a required property"
  | missingWith key present => key.display ++ " is a dependency of " ++ present.quoted
  | unexpected keys =>
    "Additional properties are not allowed " ++ unexpectedWords (keys.map Text.quoted)
  | unmatched keys patterns =>
    let verb : Text := if keys.length = 1 then "does" else "do"
    Text.join ", " (keys.map Text.quoted) ++ " " ++ verb ++ " not match any of the regexes: "
      ++ Text.join ", " (patterns.map Text.quoted)
  | surplus items most =>
    let noun : Text := if most = 1 then "item" else "items"
    let shown : Json := match items with
      | [v] => v
      | vs => .array vs
    "Expected at most " ++ Text.ofNat most ++ " " ++ noun ++ " but found " ++ Text.ofNat items.length
      ++ " extra: " ++ shown.display
  | additionalItems items =>
    "Additional items are not allowed " ++ unexpectedWords (items.map Json.display)
  | tooSmall v m least => v.display ++ " " ++ tooSmallWords m least
  | tooLarge v m most => v.display ++ " " ++ tooLargeWords m most
  | outOfRange v c limit => v.display ++ " is " ++ c.words ++ " " ++ limit.display
  | notMultiple v divisor => v.display ++ " is not a multiple of " ++ divisor.display
  | repetition v => v.display ++ " has non-unique elements"
  | unlike v pattern => v.display ++ " does not match " ++ pattern.quoted
  | notAmong v allowed => v.display ++ " is not one of " ++ allowed.display
  | notConstant expected => expected.display ++ " was expected"
  | noChoice v => v.display ++ " is not valid under any of the given schemas"
  | manyChoices v schemas =>
    v.display ++ " is valid under each of " ++ Text.join ", " (schemas.map Json.display)
  | excluded v schema => v.display ++ " should not be valid under " ++ schema.display
  | noSuchItem v => v.display ++ " does not contain items matching the given schema"
  | noValidItem v => "None of " ++ v.display ++ " are valid under the given schema"
  | fewSuchItems least count =>
    "Too few items match the given schema (expected at least " ++ least.display ++ " but only "
      ++ Text.ofNat count ++ " matched)"
  | manySuchItems most =>
    "Too many items match the given schema (expected at most " ++ most.display ++ ")"
  | unevaluatedItems items =>
    "Unevaluated items are not allowed " ++ unexpectedWords (items.map Json.display)
  | unevaluatedFields keys true =>
    "Unevaluated properties are not allowed " ++ unexpectedWords (keys.map Text.quoted)
  | unevaluatedFields keys false =>
    "Unevaluated properties are not valid under the given schema "
      ++ unexpectedWords (keys.map Text.quoted)

end Violation

end TraitCatalog
