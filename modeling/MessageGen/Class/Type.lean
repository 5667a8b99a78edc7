import MessageGen.Schema.FieldType

/-!
# Class types of fields

Every type of a field has a Java type. The primitive types of Java cannot hold `null`
and cannot be elements of lists, so each has a boxed form beside it. Integers without
a sign take the next larger type.
-/

namespace MessageGen

/-- A Java type with its boxed form. -/
structure ClassType where
  plain : String
  /-- The type as the element of a list, or where `null` is allowed. -/
  boxed : String
  isPrimitive : Bool
  deriving DecidableEq, Repr, Inhabited

namespace ClassType

/-- A reference type, which is its own boxed form. -/
def reference (name : String) : ClassType :=
  ⟨name, name, false⟩

/-- The type to declare a member with; only a boxed primitive can be null. -/
def declared (type : ClassType) (nullable : Bool) : String :=
  if nullable && type.isPrimitive then type.boxed else type.plain

end ClassType

/-- The class type of a primitive type. -/
def PrimitiveType.classType : PrimitiveType → ClassType
  | .bool => ⟨"boolean", "Boolean", true⟩
  | .int8 => ⟨"byte", "Byte", true⟩
  | .int16 => ⟨"short", "Short", true⟩
  | .uint16 | .int32 => ⟨"int", "Integer", true⟩
  | .uint32 | .int64 => ⟨"long", "Long", true⟩
  | .float64 => ⟨"double", "Double", true⟩
  | .string => .reference "String"
  | .bytes | .records => .reference "byte[]"
  | .uuid => .reference "UUID"

namespace FieldType

/-- The class type of a type. The elements of a list are boxed. -/
def classType : FieldType → ClassType
  | .primitive type => type.classType
  | .struct name => .reference name
  | .array element => .reference ("List<" ++ element.classType.boxed ++ ">")

/-- The classes that a member of a type needs, in order and with repetition. -/
def requiredImports : FieldType → List String
  | .array element => ["java.util.ArrayList", "java.util.List"] ++ element.requiredImports
  | .primitive .uuid => ["java.util.UUID"]
  | .primitive _ | .struct _ => []

end FieldType

end MessageGen
