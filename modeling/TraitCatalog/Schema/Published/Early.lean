import TraitCatalog.Schema.Published.Part

namespace TraitCatalog
namespace Schema.Published

def draft3 : Json :=
  document .draft3
    [("type", .string "object"),
     ("properties", .object
       [("type", .object
          [("type", .strings ["string", "array"]),
           ("items", .object [("type", .array [.string "string", refer "#"])]),
           ("uniqueItems", .bool true)]),
        ("properties", table (.object [("$ref", .string "#"), ("type", .string "object")])),
        ("patternProperties", table (refer "#")),
        ("additionalProperties", .object [("type", .array [refer "#", .string "boolean"])]),
        ("items", .object [("type", .array [refer "#", .string "array"]), ("items", refer "#")]),
        ("additionalItems", .object [("type", .array [refer "#", .string "boolean"])]),
        ("required", ofType "boolean"),
        ("dependencies", table (.object
          [("type", .array [.string "string", .string "array", refer "#"]),
           ("items", ofType "string")])),
        ("minimum", ofType "number"), ("maximum", ofType "number"),
        ("exclusiveMinimum", ofType "boolean"), ("exclusiveMaximum", ofType "boolean"),
        ("minItems", .object [("type", .string "integer"), ("minimum", .int 0)]),
        ("maxItems", .object [("type", .string "integer"), ("minimum", .int 0)]),
        ("uniqueItems", ofType "boolean"), ("pattern", ofType "string"),
        ("minLength", .object [("type", .string "integer"), ("minimum", .int 0)]),
        ("maxLength", ofType "integer"),
        ("enum", .object
          [("type", .string "array"), ("minItems", .int 1), ("uniqueItems", .bool true)]),
        ("default", ofType "any"), ("title", ofType "string"), ("description", ofType "string"),
        ("format", ofType "string"),
        ("divisibleBy", .object
          [("type", .string "number"), ("minimum", .int 0), ("exclusiveMinimum", .bool true)]),
        ("disallow", .object
          [("type", .strings ["string", "array"]),
           ("items", .object [("type", .array [.string "string", refer "#"])]),
           ("uniqueItems", .bool true)]),
        ("extends", .object [("type", .array [refer "#", .string "array"]), ("items", refer "#")]),
        ("id", ofType "string"), ("$ref", ofType "string"), ("$schema", ofType "string")]),
     ("dependencies", .object
       [("exclusiveMinimum", .string "minimum"), ("exclusiveMaximum", .string "maximum")])]

def draft4Front : Keyed Json :=
  [("id", ofType "string"), ("$schema", ofType "string"), ("title", ofType "string"),
   ("description", ofType "string"), ("default", .object []),
   ("multipleOf", .object
     [("type", .string "number"), ("minimum", .int 0), ("exclusiveMinimum", .bool true)]),
   ("maximum", ofType "number"), ("exclusiveMaximum", ofType "boolean"),
   ("minimum", ofType "number"), ("exclusiveMinimum", ofType "boolean"),
   ("maxLength", refer "#/definitions/positiveInteger"),
   ("minLength", refer "#/definitions/positiveIntegerDefault0"), ("pattern", ofType "string")]

def draft4Back : Keyed Json :=
  [("additionalItems", anyOf [ofType "boolean", refer "#"]),
   ("items", anyOf [refer "#", refer "#/definitions/schemaArray"]),
   ("maxItems", refer "#/definitions/positiveInteger"),
   ("minItems", refer "#/definitions/positiveIntegerDefault0"), ("uniqueItems", ofType "boolean"),
   ("maxProperties", refer "#/definitions/positiveInteger"),
   ("minProperties", refer "#/definitions/positiveIntegerDefault0"),
   ("required", refer "#/definitions/stringArray"),
   ("additionalProperties", anyOf [ofType "boolean", refer "#"]),
   ("definitions", table (refer "#")), ("properties", table (refer "#")),
   ("patternProperties", table (refer "#")),
   ("dependencies", table (anyOf [refer "#", refer "#/definitions/stringArray"])),
   ("enum", .object [("type", .string "array"), ("minItems", .int 1), ("uniqueItems", .bool true)]),
   ("type", anyOf
     [refer "#/definitions/simpleTypes",
      .object
        [("type", .string "array"), ("items", refer "#/definitions/simpleTypes"),
         ("minItems", .int 1), ("uniqueItems", .bool true)]]),
   ("format", ofType "string"), ("allOf", refer "#/definitions/schemaArray"),
   ("anyOf", refer "#/definitions/schemaArray"), ("oneOf", refer "#/definitions/schemaArray"),
   ("not", refer "#")]

def draft4 : Json :=
  document .draft4
    [("definitions", .object
       [("schemaArray", .object
          [("type", .string "array"), ("minItems", .int 1), ("items", refer "#")]),
        ("positiveInteger", .object [("type", .string "integer"), ("minimum", .int 0)]),
        ("positiveIntegerDefault0", .object
          [("allOf", .array [refer "#/definitions/positiveInteger", .object []])]),
        ("simpleTypes", .object
          [("enum", .strings
             ["array", "boolean", "integer", "null", "number", "object", "string"])]),
        ("stringArray", .object
          [("type", .string "array"), ("items", ofType "string"), ("minItems", .int 1),
           ("uniqueItems", .bool true)])]),
     ("type", .string "object"), ("properties", .object (draft4Front ++ draft4Back)),
     ("dependencies", .object
       [("exclusiveMaximum", .strings ["maximum"]), ("exclusiveMinimum", .strings ["minimum"])])]

def draft6Front : Keyed Json :=
  [("$id", ofType "string"), ("$schema", ofType "string"), ("$ref", ofType "string"),
   ("title", ofType "string"), ("description", ofType "string"), ("default", .object []),
   ("examples", .object [("type", .string "array"), ("items", .object [])]),
   ("multipleOf", .object [("type", .string "number"), ("exclusiveMinimum", .int 0)]),
   ("maximum", ofType "number"), ("exclusiveMaximum", ofType "number"),
   ("minimum", ofType "number"), ("exclusiveMinimum", ofType "number"),
   ("maxLength", refer "#/definitions/nonNegativeInteger"),
   ("minLength", refer "#/definitions/nonNegativeIntegerDefault0"), ("pattern", ofType "string")]

def draft6Back : Keyed Json :=
  [("additionalItems", refer "#"), ("items", anyOf [refer "#", refer "#/definitions/schemaArray"]),
   ("maxItems", refer "#/definitions/nonNegativeInteger"),
   ("minItems", refer "#/definitions/nonNegativeIntegerDefault0"),
   ("uniqueItems", ofType "boolean"), ("contains", refer "#"),
   ("maxProperties", refer "#/definitions/nonNegativeInteger"),
   ("minProperties", refer "#/definitions/nonNegativeIntegerDefault0"),
   ("required", refer "#/definitions/stringArray"), ("additionalProperties", refer "#"),
   ("definitions", table (refer "#")), ("properties", table (refer "#")),
   ("patternProperties", .object
     [("type", .string "object"), ("additionalProperties", refer "#"),
      ("propertyNames", .object [])]),
   ("dependencies", table (anyOf [refer "#", refer "#/definitions/stringArray"])),
   ("propertyNames", refer "#"), ("const", .object []), ("enum", ofType "array"),
   ("type", anyOf
     [refer "#/definitions/simpleTypes",
      .object
        [("type", .string "array"), ("items", refer "#/definitions/simpleTypes"),
         ("minItems", .int 1), ("uniqueItems", .bool true)]]),
   ("format", ofType "string"), ("allOf", refer "#/definitions/schemaArray"),
   ("anyOf", refer "#/definitions/schemaArray"), ("oneOf", refer "#/definitions/schemaArray"),
   ("not", refer "#")]

def draft6 : Json :=
  document .draft6
    [("definitions", .object
       [("schemaArray", .object
          [("type", .string "array"), ("minItems", .int 1), ("items", refer "#")]),
        ("nonNegativeInteger", .object [("type", .string "integer"), ("minimum", .int 0)]),
        ("nonNegativeIntegerDefault0", .object
          [("allOf", .array [refer "#/definitions/nonNegativeInteger", .object []])]),
        ("simpleTypes", .object
          [("enum", .strings
             ["array", "boolean", "integer", "null", "number", "object", "string"])]),
        ("stringArray", .object
          [("type", .string "array"), ("items", ofType "string"), ("uniqueItems", .bool true)])]),
     ("type", .strings ["object", "boolean"]), ("properties", .object (draft6Front ++ draft6Back))]

def draft7Front : Keyed Json :=
  [("$id", ofType "string"), ("$schema", ofType "string"), ("$ref", ofType "string"),
   ("$comment", ofType "string"), ("title", ofType "string"), ("description", ofType "string"),
   ("default", .bool true), ("readOnly", ofType "boolean"),
   ("examples", .object [("type", .string "array"), ("items", .bool true)]),
   ("multipleOf", .object [("type", .string "number"), ("exclusiveMinimum", .int 0)]),
   ("maximum", ofType "number"), ("exclusiveMaximum", ofType "number"),
   ("minimum", ofType "number"), ("exclusiveMinimum", ofType "number"),
   ("maxLength", refer "#/definitions/nonNegativeInteger"),
   ("minLength", refer "#/definitions/nonNegativeIntegerDefault0"), ("pattern", ofType "string")]

def draft7Back : Keyed Json :=
  [("additionalItems", refer "#"), ("items", anyOf [refer "#", refer "#/definitions/schemaArray"]),
   ("maxItems", refer "#/definitions/nonNegativeInteger"),
   ("minItems", refer "#/definitions/nonNegativeIntegerDefault0"),
   ("uniqueItems", ofType "boolean"), ("contains", refer "#"),
   ("maxProperties", refer "#/definitions/nonNegativeInteger"),
   ("minProperties", refer "#/definitions/nonNegativeIntegerDefault0"),
   ("required", refer "#/definitions/stringArray"), ("additionalProperties", refer "#"),
   ("definitions", table (refer "#")), ("properties", table (refer "#")),
   ("patternProperties", .object
     [("type", .string "object"), ("additionalProperties", refer "#"),
      ("propertyNames", .object [])]),
   ("dependencies", table (anyOf [refer "#", refer "#/definitions/stringArray"])),
   ("propertyNames", refer "#"), ("const", .bool true),
   ("enum", .object [("type", .string "array"), ("items", .bool true)]),
   ("type", anyOf
     [refer "#/definitions/simpleTypes",
      .object
        [("type", .string "array"), ("items", refer "#/definitions/simpleTypes"),
         ("minItems", .int 1), ("uniqueItems", .bool true)]]),
   ("format", ofType "string"), ("contentMediaType", ofType "string"),
   ("contentEncoding", ofType "string"), ("if", refer "#"), ("then", refer "#"),
   ("else", refer "#"), ("allOf", refer "#/definitions/schemaArray"),
   ("anyOf", refer "#/definitions/schemaArray"), ("oneOf", refer "#/definitions/schemaArray"),
   ("not", refer "#")]

def draft7 : Json :=
  document .draft7
    [("definitions", .object
       [("schemaArray", .object
          [("type", .string "array"), ("minItems", .int 1), ("items", refer "#")]),
        ("nonNegativeInteger", .object [("type", .string "integer"), ("minimum", .int 0)]),
        ("nonNegativeIntegerDefault0", .object
          [("allOf", .array [refer "#/definitions/nonNegativeInteger", .object []])]),
        ("simpleTypes", .object
          [("enum", .strings
             ["array", "boolean", "integer", "null", "number", "object", "string"])]),
        ("stringArray", .object
          [("type", .string "array"), ("items", ofType "string"), ("uniqueItems", .bool true)])]),
     ("type", .strings ["object", "boolean"]), ("properties", .object (draft7Front ++ draft7Back))]

end Schema.Published
end TraitCatalog
