import MessageGen.Class.Type

/-!
# Initial values of members

A member starts with the default of its field, and without one with `null` if the field
may be null and with the zero value of its type otherwise. Defaults are mostly written
as strings, so a default is first brought to a text and the text is read by the type.
Only primitive types other than raw bytes and identifiers have defaults besides `null`.
-/

namespace MessageGen

open Text

/-- The value that a member of a primitive type starts with. -/
def PrimitiveType.zeroValue : PrimitiveType → String
  | .bool => "false"
  | .int8 => "(byte) 0"
  | .int16 => "(short) 0"
  | .uint16 | .int32 => "0"
  | .uint32 | .int64 => "0L"
  | .float64 => "0.0"
  | .string => "\"\""
  | .bytes | .records => "new byte[0]"
  | .uuid => "new UUID(0L, 0L)"

/-- The value that a member starts with when its field has no default. -/
def FieldType.zeroValue : FieldType → String
  | .primitive type => type.zeroValue
  | .struct name => "new " ++ name ++ "()"
  | .array _ => "new ArrayList<>()"

/-! ## Integers -/

/-- The integer types, with their ranges and with what Java writes around a literal. -/
structure IntegerFormat where
  least : Int
  greatest : Int
  before : String
  after : String
  deriving Repr

/-- The format of an integer type, and nothing for the other types. -/
def PrimitiveType.integerFormat? : PrimitiveType → Option IntegerFormat
  | .int8 => some ⟨-128, 127, "(byte) ", ""⟩
  | .int16 => some ⟨-32768, 32767, "(short) ", ""⟩
  | .uint16 => some ⟨0, 65535, "", ""⟩
  | .int32 => some ⟨-2147483648, 2147483647, "", ""⟩
  | .uint32 => some ⟨0, 4294967295, "", "L"⟩
  | .int64 => some ⟨-9223372036854775808, 9223372036854775807, "", "L"⟩
  | .bool | .float64 | .string | .bytes | .records | .uuid => none

/-- The size of an integer: decimal digits, or hexadecimal ones behind `0x`. -/
def readSize? : List Char → Option Nat
  | '0' :: 'x' :: digits | '0' :: 'X' :: digits => readHex? digits
  | digits => readDecimal? digits

/-- Reads an integer with an optional minus sign. -/
def readInteger? : List Char → Option Int
  | '-' :: size => (readSize? size).map fun value => -(value : Int)
  | size => (readSize? size).map fun value => (value : Int)

/-- The literal of an integer, if it is in the range of the type. -/
def IntegerFormat.literal? (format : IntegerFormat) (text : String) : Option String :=
  match readInteger? text.toList with
  | some value =>
    if format.least ≤ value ∧ value ≤ format.greatest then
      some (format.before ++ String.ofList (signedDecimal value) ++ format.after)
    else none
  | none => none

/-! ## Floating-point numbers and strings -/

/-- How floating-point literals are laid out. -/
def literalLayout : DecimalLayout :=
  ⟨-4, 16, ['e']⟩

/-- The literal of a floating-point number. -/
def realLiteral? (text : String) : Option String :=
  (readDecimal64? text.toList).map fun value => String.ofList (literalLayout.write value)

/-- A character as it stands inside a string literal. -/
def escapeCharacter (character : Char) : List Char :=
  match character with
  | '"' => ['\\', '"']
  | '\\' => ['\\', '\\']
  | '\n' => ['\\', 'n']
  | '\r' => ['\\', 'r']
  | '\t' => ['\\', 't']
  | other => [other]

/-- The characters of a string literal between its quotes. -/
def escape (text : List Char) : List Char :=
  text.flatMap escapeCharacter

/-- The characters of a string literal between its quotes, as a string. -/
def escapeString (text : String) : String :=
  String.ofList (escape text.toList)

/-- The literal of a string. -/
def stringLiteral (text : String) : String :=
  "\"" ++ escapeString text ++ "\""

/-! ## Defaults -/

/-- The text of a default; lists and objects have none. -/
def Json.defaultText? : Json → Option String
  | .string text => some text
  | .number value => some (String.ofList value.print)
  | .boolean true => some "true"
  | .boolean false => some "false"
  | .null => some "null"
  | .array _ | .object _ => none

/-- The literal of a default other than `null`, from the default and its text. -/
def PrimitiveType.literal? (type : PrimitiveType) (value : Json) (text : String) : Option String :=
  match type with
  | .bool => if text = "true" ∨ text = "false" then some text else none
  | .float64 => realLiteral? text
  | .string =>
    match value with
    | .string _ => some (stringLiteral text)
    | _ => none
  | .bytes | .records | .uuid => none
  | .int8 | .int16 | .uint16 | .int32 | .uint32 | .int64 =>
    type.integerFormat?.bind (·.literal? text)

namespace FieldType

/-- The expression of a default, if it fits the type. -/
def defaultLiteral? (type : FieldType) (nullable : Bool) (value : Json) : Option String :=
  match value.defaultText? with
  | none => none
  | some text =>
    if text = "null" then if nullable then some "null" else none
    else
      match type with
      | .primitive base => base.literal? value text
      | .struct _ | .array _ => none

/-- The expression that a member of a field starts with. -/
def initializer (field : String) (type : FieldType) (nullable : Bool) (default? : Option Json) :
    Except GenerationError String :=
  match default? with
  | none => .ok (if nullable then "null" else type.zeroValue)
  | some value =>
    match type.defaultLiteral? nullable value with
    | some literal => .ok literal
    | none => .error (.invalidDefault field value)

end FieldType

end MessageGen
