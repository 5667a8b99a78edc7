import MessageGen.Number.Decimal

/-!
# JSON values

A number is an integer when it is written as one and lies in the range of 64-bit
integers, signed or unsigned; every other number is a floating-point number. The
entries of an object are kept in the order in which they are written out.
-/

namespace MessageGen

/-- A number of a JSON text. -/
inductive JsonNumber where
  /-- A number in the range of 64-bit integers. -/
  | integer (value : Int)
  /-- Any other number. -/
  | real (value : Binary64)
  deriving DecidableEq, Repr, Inhabited

/-- A value of a JSON text. -/
inductive Json where
  | null
  | boolean (value : Bool)
  | number (value : JsonNumber)
  | string (value : String)
  | array (items : List Json)
  | object (entries : List (String × Json))
  deriving Repr, Inhabited

/-- The text of an optional string: the string, or `null`. -/
def Json.ofOption : Option String → Json
  | some text => .string text
  | none => .null

end MessageGen
