import Runbook.Schema.Check

/-!
# The schema of schemas

A schema is a value, and there is a schema that says which values are schemas: `Schema.metaSchema`, put
together from the vocabularies of keywords. `Schema.defect?` is the first thing that it has against a
value.
-/

namespace Runbook.Schema

/-! ## Parts of schemas -/

/-- A reference to a definition. -/
def definition (name : String) : Json :=
  .record [("$ref", .str s!"#/$defs/{name}")]

/-- A reference to the schema of schemas itself. -/
def anySchema : Json :=
  .record [("$ref", .str "#")]

/-- Values of a type. -/
def ofType (name : String) (more : Fields := []) : Json :=
  .record (("type", .str name) :: more)

/-- Records whose members all fit a schema. -/
def recordOf (schema : Json) : Json :=
  ofType "object" [("additionalProperties", schema)]

/-- Schemas with demands on certain members. -/
def vocabulary (members : Fields) : Json :=
  .record
    [("type", .list [.str "object", .str "boolean"]), ("properties", .record members)]

/-! ## Vocabularies -/

/-- Identifiers, references and definitions. -/
def coreVocabulary : Json :=
  vocabulary
    [("$id", .record [("$ref", .str "#/$defs/text"), ("pattern", .str "^[^#]*#?$")]),
      ("$schema", definition "text"), ("$ref", definition "text"), ("$anchor", definition "anchor"),
      ("$dynamicRef", definition "text"), ("$dynamicAnchor", definition "anchor"),
      ("$vocabulary", ofType "object"
        [("propertyNames", definition "text"), ("additionalProperties", ofType "boolean")]),
      ("$comment", definition "text"), ("$defs", recordOf anySchema)]

/-- Keywords that apply schemas. -/
def applicatorVocabulary : Json :=
  vocabulary
    [("prefixItems", definition "schemas"), ("items", anySchema), ("contains", anySchema),
      ("additionalProperties", anySchema), ("properties", recordOf anySchema),
      ("patternProperties", ofType "object"
        [("additionalProperties", anySchema),
          ("propertyNames", .record [("format", .str "regex")])]),
      ("dependentSchemas", recordOf anySchema), ("propertyNames", anySchema), ("if", anySchema),
      ("then", anySchema), ("else", anySchema), ("allOf", definition "schemas"),
      ("anyOf", definition "schemas"), ("oneOf", definition "schemas"), ("not", anySchema)]

/-- Keywords for what no other keyword concerns. -/
def unevaluatedVocabulary : Json :=
  vocabulary [("unevaluatedItems", anySchema), ("unevaluatedProperties", anySchema)]

/-- Keywords with demands of their own. -/
def validationVocabulary : Json :=
  vocabulary
    [("type", .record
        [("anyOf", .list
          [definition "typeName",
            ofType "array"
              [("items", definition "typeName"), ("minItems", .nat 1),
                ("uniqueItems", .bool true)]])]),
      ("const", .bool true), ("enum", ofType "array" [("items", .bool true)]),
      ("multipleOf", ofType "number" [("exclusiveMinimum", .nat 0)]),
      ("maximum", ofType "number"), ("exclusiveMaximum", ofType "number"),
      ("minimum", ofType "number"), ("exclusiveMinimum", ofType "number"),
      ("maxLength", definition "size"), ("minLength", definition "size"),
      ("pattern", ofType "string" [("format", .str "regex")]), ("maxItems", definition "size"),
      ("minItems", definition "size"), ("uniqueItems", ofType "boolean"),
      ("maxContains", definition "size"), ("minContains", definition "size"),
      ("maxProperties", definition "size"), ("minProperties", definition "size"),
      ("required", definition "names"), ("dependentRequired", recordOf (definition "names"))]

/-- Keywords that describe. -/
def descriptionVocabulary : Json :=
  vocabulary
    [("title", definition "text"), ("description", definition "text"), ("default", .bool true),
      ("deprecated", ofType "boolean"), ("readOnly", ofType "boolean"),
      ("writeOnly", ofType "boolean"), ("examples", ofType "array" [("items", .bool true)])]

/-- The keyword for formats. -/
def formatVocabulary : Json :=
  vocabulary [("format", definition "text")]

/-- Keywords for texts that hold other data. -/
def contentVocabulary : Json :=
  vocabulary
    [("contentEncoding", definition "text"), ("contentMediaType", definition "text"),
      ("contentSchema", anySchema)]

/-- Keywords that have gone out of use. -/
def formerKeywords : Fields :=
  [("definitions", recordOf anySchema),
    ("dependencies", recordOf (.record [("anyOf", .list [anySchema, definition "names"])])),
    ("$recursiveAnchor", definition "anchor"), ("$recursiveRef", definition "text")]

/-- The names of types. -/
def typeNames : List String :=
  ["array", "boolean", "integer", "null", "number", "object", "string"]

/-- What the vocabularies refer to. -/
def definitions : Fields :=
  [("core", coreVocabulary), ("applicator", applicatorVocabulary),
    ("unevaluated", unevaluatedVocabulary), ("validation", validationVocabulary),
    ("description", descriptionVocabulary), ("format", formatVocabulary),
    ("content", contentVocabulary), ("text", ofType "string"),
    ("anchor", ofType "string" [("pattern", .str "^[A-Za-z_][-A-Za-z0-9._]*$")]),
    ("schemas", ofType "array" [("minItems", .nat 1), ("items", anySchema)]),
    ("size", ofType "integer" [("minimum", .nat 0)]),
    ("typeName", .record [("enum", .list (typeNames.map .str))]),
    ("names", ofType "array" [("items", ofType "string"), ("uniqueItems", .bool true)])]

/-- The schema of schemas. -/
def metaSchema : Json :=
  .record
    [("allOf", .list
        (["core", "applicator", "unevaluated", "validation", "description", "format", "content"].map
          definition)),
      ("type", .list [.str "object", .str "boolean"]), ("properties", .record formerKeywords),
      ("$defs", .record definitions)]

/-- Does a text have a format? Only patterns are looked at. -/
def hasKnownFormat (format text : String) : Except Obstacle Bool :=
  if format != "regex" then .ok true
  else match Pattern.read text with
    | .ok _ => .ok true
    | .error .malformed => .ok false
    | .error defect => .error (.patternDefective defect)

/-- The first thing that is wrong with a schema. What keeps the rest from being looked at counts only if
nothing was found before. -/
def defect? (schema : Json) : Except Obstacle (Option Fault) :=
  let verdict := check ⟨metaSchema, hasKnownFormat⟩ schema
  match verdict.violations, verdict.obstacle with
  | first :: _, _ => .ok (some first.fault)
  | [], some obstacle => .error obstacle
  | [], none => .ok none

end Runbook.Schema
