import MessageGen.Json.Printer
import MessageGen.Text.Quoted

/-!
# What can be wrong with a JSON text

A text may be malformed, may end too early, or may be well-formed and have the wrong
shape for what is read from it. Only a wrong shape is described in detail. Reading
stops at the first problem in the order of the text.
-/

namespace MessageGen.Json

/-- Why a text is no JSON text. -/
inductive Category where
  /-- Some character cannot stand where it does. -/
  | malformed
  /-- The text ends before the value does. -/
  | truncated
  deriving DecidableEq, Repr, Inhabited

/-- A value that stands where another kind of value is wanted. -/
inductive Found where
  | null
  | boolean (value : Bool)
  | number (value : JsonNumber)
  | string (text : String)
  | sequence
  | map
  deriving Repr, Inhabited

/-- How a well-formed text has the wrong shape. -/
inductive Mismatch where
  /-- An object lacks an entry that it must have. -/
  | missingField (name : String)
  /-- An object has two entries of one name. -/
  | duplicateField (name : String)
  /-- A value of one kind stands where another is wanted. -/
  | wrongType (found : Found) (expected : String)
  /-- An integer is outside the wanted range. -/
  | wrongInteger (value : Int) (expected : String)
  /-- A list has too few items. -/
  | wrongLength (length : Nat) (expected : String)
  deriving Repr, Inhabited

/-- The first problem of a text. -/
inductive Problem where
  /-- The text is no JSON text. -/
  | illFormed (category : Category)
  /-- The text has the wrong shape. -/
  | mismatch (mismatch : Mismatch)
  deriving Repr, Inhabited

/-- A value as a message names it. -/
def Found.describe : Found → String
  | .null => "null"
  | .boolean true => "boolean `true`"
  | .boolean false => "boolean `false`"
  | .number (.integer value) => "integer `" ++ String.ofList (Text.signedDecimal value) ++ "`"
  | .number (.real value) =>
    "floating point `" ++ String.ofList (JsonNumber.layout.write value) ++ "`"
  | .string text => "string " ++ String.ofList (Text.quoted text.toList)
  | .sequence => "sequence"
  | .map => "map"

/-- The message of a mismatch. -/
def Mismatch.message : Mismatch → String
  | .missingField name => "missing field `" ++ name ++ "`"
  | .duplicateField name => "duplicate field `" ++ name ++ "`"
  | .wrongType found expected =>
    "invalid type: " ++ found.describe ++ ", expected " ++ expected
  | .wrongInteger value expected =>
    "invalid value: integer `" ++ String.ofList (Text.signedDecimal value) ++ "`, expected " ++
      expected
  | .wrongLength length expected =>
    "invalid length " ++ toString length ++ ", expected " ++ expected

/-- The message of a problem. -/
def Problem.message : Problem → String
  | .illFormed .malformed => "malformed JSON"
  | .illFormed .truncated => "unexpected end of JSON"
  | .mismatch detail => detail.message

end MessageGen.Json
