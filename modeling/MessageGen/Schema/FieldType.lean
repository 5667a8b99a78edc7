import MessageGen.Class.Identifier
import MessageGen.Error

/-!
# Types of fields

A field has a primitive type, a structure, or an array of either, and arrays nest. A
type is written as any number of `[]` followed by the name of a primitive or of a
structure; structures have capital letters in front, so the two never meet.
`FieldType.wireName` writes a type back.
-/

namespace MessageGen

/-- The primitive types of the wire format. -/
inductive PrimitiveType where
  | bool
  | int8
  | int16
  | uint16
  | int32
  | uint32
  | int64
  | float64
  | string
  | bytes
  | records
  | uuid
  deriving DecidableEq, Repr, Inhabited

namespace PrimitiveType

/-- All primitive types. -/
def all : List PrimitiveType :=
  [.bool, .int8, .int16, .uint16, .int32, .uint32, .int64, .float64, .string, .bytes, .records,
    .uuid]

/-- The name of a primitive type in schemas. -/
def name : PrimitiveType → String
  | .bool => "bool"
  | .int8 => "int8"
  | .int16 => "int16"
  | .uint16 => "uint16"
  | .int32 => "int32"
  | .uint32 => "uint32"
  | .int64 => "int64"
  | .float64 => "float64"
  | .string => "string"
  | .bytes => "bytes"
  | .records => "records"
  | .uuid => "uuid"

/-- The primitive type of a name. -/
def ofName? (name : String) : Option PrimitiveType :=
  all.find? (·.name == name)

/-- Whether values of a type are numbers. -/
def isNumeric : PrimitiveType → Bool
  | .int8 | .int16 | .uint16 | .int32 | .uint32 | .int64 | .float64 => true
  | .bool | .string | .bytes | .records | .uuid => false

@[simp]
theorem ofName?_name (type : PrimitiveType) : ofName? type.name = some type := by
  cases type <;> decide

theorem name_of_ofName? {name : String} {type : PrimitiveType}
    (found : ofName? name = some type) : type.name = name := by
  simpa using List.find?_some found

end PrimitiveType

/-- The type of a field. -/
inductive FieldType where
  | primitive (type : PrimitiveType)
  | struct (name : String)
  | array (element : FieldType)
  deriving DecidableEq, Repr, Inhabited

namespace FieldType

/-- Whether a text is the name of a structure: an identifier with a capital letter in front. -/
def isStructureName (text : List Char) : Bool :=
  isIdentifier text && (text.head?.elim false Char.isUpper)

/--
Reads a type from its text. The error shows the part of the text that is neither an
array nor the name of a type.
-/
def parseText (field : String) (text : List Char) : Except GenerationError FieldType :=
  match text with
  | '[' :: ']' :: element =>
    if element.isEmpty then .error (.unsupportedType field (String.ofList text))
    else (parseText field element).map .array
  | _ =>
    match PrimitiveType.ofName? (String.ofList text) with
    | some type => .ok (.primitive type)
    | none =>
      if isStructureName text then .ok (.struct (String.ofList text))
      else .error (.unsupportedType field (String.ofList text))

/-- Reads the declared type of a field. -/
def parse (field type : String) : Except GenerationError FieldType :=
  parseText field type.toList

/-- The structure that a type names, also as the element of an array. -/
def structureName? : FieldType → Option String
  | .primitive _ => none
  | .struct name => some name
  | .array element => element.structureName?

/-- The text of a type. -/
def wireName : FieldType → String
  | .primitive type => type.name
  | .struct name => name
  | .array element => "[]" ++ element.wireName

/-- How many arrays a type has around its innermost element. -/
def arrayDepth : FieldType → Nat
  | .array element => element.arrayDepth + 1
  | .primitive _ | .struct _ => 0

/-- The element inside all arrays. -/
def innermost : FieldType → FieldType
  | .array element => element.innermost
  | other => other

end FieldType

end MessageGen
