import MessageGen.Json.Value

/-!
# Compact JSON texts

Values are written without blanks. A string escapes the quote, the backslash and the
controls below the space, and nothing else. A real number has the fewest digits that
read back; it is written without an exponent from `1e-5` up to but not including
`1e16`, and keeps a `.0` when it is whole.
-/

namespace MessageGen

open Text

/-- The layout of real numbers in JSON texts. -/
def JsonNumber.layout : DecimalLayout :=
  ⟨-5, 16, ['e', '+']⟩

namespace JsonNumber

/-- The text of a number. -/
def print : JsonNumber → List Char
  | .integer value => signedDecimal value
  | .real value => layout.write value

end JsonNumber

namespace Json

/-- A character as it stands inside a string. -/
def printCharacter (character : Char) : List Char :=
  match character with
  | '"' => ['\\', '"']
  | '\\' => ['\\', '\\']
  | '\x08' => ['\\', 'b']
  | '\t' => ['\\', 't']
  | '\n' => ['\\', 'n']
  | '\x0c' => ['\\', 'f']
  | '\r' => ['\\', 'r']
  | other =>
    if other.toNat < 0x20 then ['\\', 'u'] ++ padZeros 4 (hex other.toNat) else [other]

/-- A string between its quotes. -/
def printString (text : String) : List Char :=
  '"' :: text.toList.flatMap printCharacter ++ ['"']

mutual

/-- The compact text of a value. -/
def print : Json → List Char
  | .null => ['n', 'u', 'l', 'l']
  | .boolean true => ['t', 'r', 'u', 'e']
  | .boolean false => ['f', 'a', 'l', 's', 'e']
  | .number value => value.print
  | .string text => printString text
  | .array items => '[' :: printItems items ++ [']']
  | .object entries => '\x7b' :: printEntries entries ++ ['\x7d']

/-- The texts of the items of an array, with a comma between neighbours. -/
def printItems : List Json → List Char
  | [] => []
  | [item] => print item
  | item :: items => print item ++ ',' :: printItems items

/-- The texts of the entries of an object, with a comma between neighbours. -/
def printEntries : List (String × Json) → List Char
  | [] => []
  | [entry] => printEntry entry
  | entry :: entries => printEntry entry ++ ',' :: printEntries entries

/-- The text of an entry: its name, a colon and its value. -/
def printEntry : String × Json → List Char
  | (name, value) => printString name ++ ':' :: print value

end

/-- The compact text of a value, as a string. -/
def compact (value : Json) : String :=
  String.ofList value.print

example : (Json.object [("a", .array [.null, .number (.integer (-1))])]).compact =
    "\x7b\"a\":[null,-1]\x7d" := by
  decide +kernel

end Json

end MessageGen
