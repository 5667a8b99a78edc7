import MessageGen.Text.Lines

/-!
# Comments in schema files

Schema files are JSON with comments: two slashes outside a string start a comment that
ends with its line. Strings are followed line by line. JSON has no string that goes
over the end of a line, so each line starts outside a string.
-/

namespace MessageGen

open Text

/-- Where a scan along a line stands. -/
inductive LineState where
  /-- Outside a string. -/
  | outside
  /-- Inside a string. -/
  | inString
  /-- Inside a string, behind a backslash that escapes the next character. -/
  | escaped
  deriving DecidableEq, Repr, Inhabited

namespace LineState

/-- Where a scan stands after a character. -/
def next (state : LineState) (character : Char) : LineState :=
  match state with
  | .outside => if character = '"' then .inString else .outside
  | .inString =>
    if character = '\\' then .escaped else if character = '"' then .outside else .inString
  | .escaped => .inString

end LineState

/-- What stands in front of the comment of a line, from a state on. -/
def beforeComment : LineState → List Char → List Char
  | _, [] => []
  | .outside, '/' :: '/' :: _ => []
  | state, character :: rest => character :: beforeComment (state.next character) rest

/-- Removes the comment of every line. Each line ends with a line feed afterwards. -/
def stripComments (text : List Char) : List Char :=
  (lines text).flatMap fun line => beforeComment .outside line ++ ['\n']

/-- Removes the comments of a string. -/
def stripLineComments (text : String) : String :=
  String.ofList (stripComments text.toList)

end MessageGen
