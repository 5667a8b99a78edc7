import MessageGen.Json.Printer
import MessageGen.Schema.Document

/-!
# Writing schema documents

A document is written as the JSON object that holds all of its fields in order, absent
ones as `null`, without blanks and comments.
-/

namespace MessageGen

/-- An integer as a JSON value. -/
def Json.ofInteger (value : Int) : Json :=
  .number (.integer value)

mutual

/-- A field as a JSON value. -/
def Field.toJson : Field → Json
  | ⟨attributes, fields⟩ =>
    .object
      [("name", .string attributes.name),
        ("type", .string attributes.type),
        ("versions", .string attributes.versions),
        ("nullableVersions", .ofOption attributes.nullableVersions),
        ("taggedVersions", .ofOption attributes.taggedVersions),
        ("tag", attributes.tag.elim .null .ofInteger),
        ("default", attributes.default.getD .null),
        ("about", .ofOption attributes.about),
        ("ignorable", .boolean attributes.ignorable),
        ("mapKey", .boolean attributes.mapKey),
        ("entityType", .ofOption attributes.entityType),
        ("fields", nestedToJson fields)]

/-- The fields of a structure in place as a JSON value. -/
def nestedToJson : Option (List Field) → Json
  | none => .null
  | some fields => .array (fieldsToJson fields)

/-- Fields as JSON values. -/
def fieldsToJson : List Field → List Json
  | [] => []
  | field :: fields => field.toJson :: fieldsToJson fields

end

/-- A common structure as a JSON value. -/
def CommonStructure.toJson (common : CommonStructure) : Json :=
  .object
    [("name", .string common.name),
      ("versions", .string common.versions),
      ("fields", .array (fieldsToJson common.fields))]

/-- A document as a JSON value. -/
def Document.toJson (document : Document) : Json :=
  .object
    [("name", .string document.name),
      ("type", .string document.type),
      ("apiKey", .ofInteger document.apiKey),
      ("validVersions", .string document.validVersions),
      ("flexibleVersions", .ofOption document.flexibleVersions),
      ("commonStructs", .array (document.commonStructures.map CommonStructure.toJson)),
      ("fields", .array (fieldsToJson document.fields))]

/-- The compact JSON text of a document. -/
def Document.print (document : Document) : String :=
  document.toJson.compact

end MessageGen
