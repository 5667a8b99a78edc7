/-!
# Lines of a text

A line ends at a line feed, or at a carriage return followed by a line feed. A
carriage return anywhere else belongs to its line, also as the last character of
the text. What follows the last line feed is a line only if it is not empty.
-/

namespace MessageGen.Text

/-- Removes the carriage return that a line feed followed. -/
def dropCarriageReturn (line : List Char) : List Char :=
  if line.getLast? = some '\r' then line.dropLast else line

/-- The lines of a text, without their terminators. -/
def lines (text : List Char) : List (List Char) :=
  let pieces := text.splitOn '\n'
  let terminated := pieces.dropLast.map dropCarriageReturn
  match pieces.getLast? with
  | none | some [] => terminated
  | some unterminated => terminated ++ [unterminated]

/-- The lines of a string. -/
def stringLines (text : String) : List String :=
  (lines text.toList).map String.ofList

example : lines "a\r\nb\rc\n\nd\r".toList =
    ["a".toList, "b\rc".toList, [], "d\r".toList] := by cbv

end MessageGen.Text
