import TraitCatalog.Schema.Basic

namespace TraitCatalog

-- The fields that a schema knows by name or by a pattern.
structure KnownFields where
  names : Json
  patterns : Option Json

inductive Rule
  -- There is no answer for values other than those of some kinds.
  | unusable (spared : List Kind) (fault : SchemaFault)
  -- There is no answer for objects with a certain field.
  | unusableWith (present : Text) (fault : SchemaFault)
  -- There is no answer for objects without a certain field.
  | unusableWithout (absent : Text) (fault : SchemaFault)
  | type (kinds : List Kind)
  -- Types, some of which are schemas.
  | typeAmong (types : List Json)
  | disallowed (type : Json)
  | required (key : Json)
  | requiredWith (present : Text) (key : Json)
  | field (key : Text) (schema : Json)
  -- The fields whose names a pattern is found in.
  | fieldsLike (pattern : Text) (schema : Json)
  | fieldNames (schema : Json)
  -- The fields other than the known ones.
  | otherFields (known : KnownFields) (schema : Json)
  | noOtherFields (known : KnownFields)
  -- A schema for objects with a certain field.
  | schemaWith (present : Text) (schema : Json)
  | item (index : Nat) (schema : Json)
  -- The items from a number on.
  | items (first : Nat) (schema : Json)
  | noItems (first : Nat)
  | noAdditionalItems (first : Nat)
  | someItem (schema : Json)
  | someItems (schema : Json) (least most : Option Json)
  | noRepetition
  | atLeast (m : Measure) (b : Number)
  | atMost (m : Measure) (b : Number)
  | inRange (c : Comparison) (limit : Json)
  | multiple (divisor : Json)
  | like (pattern : Text)
  | among (allowed : Json)
  | constant (expected : Json)
  | keeps (schema : Json)
  | keepsAny (schemas : List Json)
  | keepsOne (schemas : List Json)
  | excludes (schema : Json)
  | ifKept (condition : Json) (thenSchema elseSchema : Option Json)
  | refer (reference : Text)
  -- What stands around the schema and is marked as recursive.
  | recur
  | noUnevaluatedItems
  | unevaluatedFields (schema : Json)

end TraitCatalog
