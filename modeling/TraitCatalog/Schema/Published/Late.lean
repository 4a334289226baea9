import TraitCatalog.Schema.Published.Part

namespace TraitCatalog
namespace Schema.Published

namespace Draft2019

def mark : Text × Json :=
  ("$recursiveAnchor", .bool true)

def anySchema : Json :=
  .object [("$recursiveRef", .string "#")]

def whole : Json :=
  document .draft2019
    [mark,
     ("allOf", .array
       [refer "meta/core", refer "meta/applicator", refer "meta/validation", refer "meta/meta-data",
        refer "meta/format", refer "meta/content"]),
     ("type", .strings ["object", "boolean"]),
     ("properties", .object
       [("definitions", table anySchema),
        ("dependencies", table (anyOf [anySchema, refer "meta/validation#/$defs/stringArray"]))])]

def core : Json :=
  part .draft2019 mark "core"
    [("$id", .object [("type", .string "string"), ("pattern", .string "^[^#]*#?$")]),
     ("$schema", ofType "string"),
     ("$anchor", .object
       [("type", .string "string"), ("pattern", .string "^[A-Za-z][-A-Za-z0-9.:_]*$")]),
     ("$ref", ofType "string"), ("$recursiveRef", ofType "string"),
     ("$recursiveAnchor", ofType "boolean"),
     ("$vocabulary", .object
       [("type", .string "object"), ("propertyNames", ofType "string"),
        ("additionalProperties", ofType "boolean")]),
     ("$comment", ofType "string"), ("$defs", table anySchema)]
    []

def applicator : Json :=
  part .draft2019 mark "applicator"
    [("additionalItems", anySchema), ("unevaluatedItems", anySchema),
     ("items", anyOf [anySchema, refer "#/$defs/schemaArray"]), ("contains", anySchema),
     ("additionalProperties", anySchema), ("unevaluatedProperties", anySchema),
     ("properties", table anySchema),
     ("patternProperties", .object
       [("type", .string "object"), ("additionalProperties", anySchema),
        ("propertyNames", .object [])]),
     ("dependentSchemas", table anySchema), ("propertyNames", anySchema), ("if", anySchema),
     ("then", anySchema), ("else", anySchema), ("allOf", refer "#/$defs/schemaArray"),
     ("anyOf", refer "#/$defs/schemaArray"), ("oneOf", refer "#/$defs/schemaArray"),
     ("not", anySchema)]
    [("schemaArray", .object
       [("type", .string "array"), ("minItems", .int 1), ("items", anySchema)])]

def validation : Json :=
  part .draft2019 mark "validation"
    [("multipleOf", .object [("type", .string "number"), ("exclusiveMinimum", .int 0)]),
     ("maximum", ofType "number"), ("exclusiveMaximum", ofType "number"),
     ("minimum", ofType "number"), ("exclusiveMinimum", ofType "number"),
     ("maxLength", refer "#/$defs/nonNegativeInteger"),
     ("minLength", refer "#/$defs/nonNegativeIntegerDefault0"), ("pattern", ofType "string"),
     ("maxItems", refer "#/$defs/nonNegativeInteger"),
     ("minItems", refer "#/$defs/nonNegativeIntegerDefault0"), ("uniqueItems", ofType "boolean"),
     ("maxContains", refer "#/$defs/nonNegativeInteger"),
     ("minContains", refer "#/$defs/nonNegativeInteger"),
     ("maxProperties", refer "#/$defs/nonNegativeInteger"),
     ("minProperties", refer "#/$defs/nonNegativeIntegerDefault0"),
     ("required", refer "#/$defs/stringArray"),
     ("dependentRequired", table (refer "#/$defs/stringArray")), ("const", .bool true),
     ("enum", .object [("type", .string "array"), ("items", .bool true)]),
     ("type", anyOf
       [refer "#/$defs/simpleTypes",
        .object
          [("type", .string "array"), ("items", refer "#/$defs/simpleTypes"), ("minItems", .int 1),
           ("uniqueItems", .bool true)]])]
    [("nonNegativeInteger", .object [("type", .string "integer"), ("minimum", .int 0)]),
     ("nonNegativeIntegerDefault0", refer "#/$defs/nonNegativeInteger"),
     ("simpleTypes", .object
       [("enum", .strings ["array", "boolean", "integer", "null", "number", "object", "string"])]),
     ("stringArray", .object
       [("type", .string "array"), ("items", ofType "string"), ("uniqueItems", .bool true)])]

def annotations : Json :=
  part .draft2019 mark "meta-data"
    [("title", ofType "string"), ("description", ofType "string"), ("default", .bool true),
     ("deprecated", ofType "boolean"), ("readOnly", ofType "boolean"),
     ("writeOnly", ofType "boolean"),
     ("examples", .object [("type", .string "array"), ("items", .bool true)])]
    []

def format (name : Text) : Json :=
  part .draft2019 mark name
     [("format", ofType "string")]
    []

def content : Json :=
  part .draft2019 mark "content"
    [("contentMediaType", ofType "string"), ("contentEncoding", ofType "string"),
     ("contentSchema", anySchema)]
    []

end Draft2019

namespace Draft2020

def mark : Text × Json :=
  ("$dynamicAnchor", .string "meta")

def anySchema : Json :=
  .object [("$dynamicRef", .string "#meta")]

def whole : Json :=
  document .draft2020
    [mark,
     ("allOf", .array
       [refer "meta/core", refer "meta/applicator", refer "meta/unevaluated",
        refer "meta/validation", refer "meta/meta-data", refer "meta/format-annotation",
        refer "meta/content"]),
     ("type", .strings ["object", "boolean"]),
     ("properties", .object
       [("definitions", table anySchema),
        ("dependencies", table (anyOf [anySchema, refer "meta/validation#/$defs/stringArray"])),
        ("$recursiveAnchor", refer "meta/core#/$defs/anchorString"),
        ("$recursiveRef", refer "meta/core#/$defs/uriReferenceString")])]

def core : Json :=
  part .draft2020 mark "core"
    [("$id", .object
       [("$ref", .string "#/$defs/uriReferenceString"), ("pattern", .string "^[^#]*#?$")]),
     ("$schema", refer "#/$defs/uriString"), ("$ref", refer "#/$defs/uriReferenceString"),
     ("$anchor", refer "#/$defs/anchorString"), ("$dynamicRef", refer "#/$defs/uriReferenceString"),
     ("$dynamicAnchor", refer "#/$defs/anchorString"),
     ("$vocabulary", .object
       [("type", .string "object"), ("propertyNames", refer "#/$defs/uriString"),
        ("additionalProperties", ofType "boolean")]),
     ("$comment", ofType "string"), ("$defs", table anySchema)]
    [("anchorString", .object
       [("type", .string "string"), ("pattern", .string "^[A-Za-z_][-A-Za-z0-9._]*$")]),
     ("uriString", ofType "string"), ("uriReferenceString", ofType "string")]

def applicator : Json :=
  part .draft2020 mark "applicator"
    [("prefixItems", refer "#/$defs/schemaArray"), ("items", anySchema), ("contains", anySchema),
     ("additionalProperties", anySchema), ("properties", table anySchema),
     ("patternProperties", .object
       [("type", .string "object"), ("additionalProperties", anySchema),
        ("propertyNames", .object [])]),
     ("dependentSchemas", table anySchema), ("propertyNames", anySchema), ("if", anySchema),
     ("then", anySchema), ("else", anySchema), ("allOf", refer "#/$defs/schemaArray"),
     ("anyOf", refer "#/$defs/schemaArray"), ("oneOf", refer "#/$defs/schemaArray"),
     ("not", anySchema)]
    [("schemaArray", .object
       [("type", .string "array"), ("minItems", .int 1), ("items", anySchema)])]

def unevaluated : Json :=
  part .draft2020 mark "unevaluated"
     [("unevaluatedItems", anySchema), ("unevaluatedProperties", anySchema)]
    []

def validation : Json :=
  part .draft2020 mark "validation"
    [("type", anyOf
       [refer "#/$defs/simpleTypes",
        .object
          [("type", .string "array"), ("items", refer "#/$defs/simpleTypes"), ("minItems", .int 1),
           ("uniqueItems", .bool true)]]),
     ("const", .bool true), ("enum", .object [("type", .string "array"), ("items", .bool true)]),
     ("multipleOf", .object [("type", .string "number"), ("exclusiveMinimum", .int 0)]),
     ("maximum", ofType "number"), ("exclusiveMaximum", ofType "number"),
     ("minimum", ofType "number"), ("exclusiveMinimum", ofType "number"),
     ("maxLength", refer "#/$defs/nonNegativeInteger"),
     ("minLength", refer "#/$defs/nonNegativeIntegerDefault0"), ("pattern", ofType "string"),
     ("maxItems", refer "#/$defs/nonNegativeInteger"),
     ("minItems", refer "#/$defs/nonNegativeIntegerDefault0"), ("uniqueItems", ofType "boolean"),
     ("maxContains", refer "#/$defs/nonNegativeInteger"),
     ("minContains", refer "#/$defs/nonNegativeInteger"),
     ("maxProperties", refer "#/$defs/nonNegativeInteger"),
     ("minProperties", refer "#/$defs/nonNegativeIntegerDefault0"),
     ("required", refer "#/$defs/stringArray"),
     ("dependentRequired", table (refer "#/$defs/stringArray"))]
    [("nonNegativeInteger", .object [("type", .string "integer"), ("minimum", .int 0)]),
     ("nonNegativeIntegerDefault0", refer "#/$defs/nonNegativeInteger"),
     ("simpleTypes", .object
       [("enum", .strings ["array", "boolean", "integer", "null", "number", "object", "string"])]),
     ("stringArray", .object
       [("type", .string "array"), ("items", ofType "string"), ("uniqueItems", .bool true)])]

def annotations : Json :=
  part .draft2020 mark "meta-data"
    [("title", ofType "string"), ("description", ofType "string"), ("default", .bool true),
     ("deprecated", ofType "boolean"), ("readOnly", ofType "boolean"),
     ("writeOnly", ofType "boolean"),
     ("examples", .object [("type", .string "array"), ("items", .bool true)])]
    []

def format (name : Text) : Json :=
  part .draft2020 mark name
     [("format", ofType "string")]
    []

def content : Json :=
  part .draft2020 mark "content"
    [("contentEncoding", ofType "string"), ("contentMediaType", ofType "string"),
     ("contentSchema", anySchema)]
    []

end Draft2020

end Schema.Published
end TraitCatalog
