import MessageGen.Class.Description
import MessageGen.Text.Lines

/-!
# Source text of classes

A description is written in one pass, line by line. Documentation goes into comments,
and the characters that would end a comment are taken apart inside it.
-/

namespace MessageGen

open Text

/-- What a line inside a class is indented by. -/
def indent : String := "    "

/-- Writes every end of a comment inside a text in another way. -/
def hideCommentEnds : List Char → List Char
  | '*' :: '/' :: rest => ['*', '&', '#', '4', '7', ';'] ++ hideCommentEnds rest
  | character :: rest => character :: hideCommentEnds rest
  | [] => []

/-- A line of documentation inside its comment. -/
def docLine (indentation doc : String) : String :=
  if doc.isEmpty then indentation ++ " *"
  else indentation ++ " * " ++ String.ofList (hideCommentEnds doc.toList)

/-- The lines of a documentation comment; there is none without documentation. -/
def docLines (indentation : String) (docs : List String) : List String :=
  if docs.isEmpty then []
  else [indentation ++ "/**"] ++ docs.map (docLine indentation) ++ [indentation ++ " */"]

namespace Member

/-- The lines of a member. -/
def sourceLines (member : Member) : List String :=
  docLines indent member.docs ++
    [indent ++ "private " ++ member.type ++ " " ++ member.name ++ " = " ++ member.initialValue ++
      ";"]

end Member

namespace Method

/-- The parameters between the brackets of a method. -/
def parameterText (method : Method) : String :=
  String.intercalate ", " (method.parameters.map fun parameter =>
    parameter.type ++ " " ++ parameter.name)

/-- The lines of a method. -/
def sourceLines (method : Method) : List String :=
  docLines indent method.docs ++
    (if method.isOverride then [indent ++ "@Override"] else []) ++
    [indent ++ "public " ++ method.returnType ++ " " ++ method.name ++ "(" ++
      method.parameterText ++ ") \x7b"] ++
    method.body.map (indent ++ indent ++ ·) ++
    [indent ++ "\x7d"]

end Method

namespace ClassDescription

/-- The lines of the constructor. -/
def constructorLines (description : ClassDescription) : List String :=
  [indent ++ "public " ++ description.name ++ "() \x7b"] ++
    (description.constructor.flatMap stringLines).map (indent ++ indent ++ ·) ++
    [indent ++ "\x7d"]

/-- The lines of the imports, with an empty line behind them. -/
def importLines (description : ClassDescription) : List String :=
  if description.imports.isEmpty then []
  else description.imports.map (fun path => "import " ++ path ++ ";") ++ [""]

/-- The lines of a class. Members, constructor and methods have an empty line in front. -/
def sourceLines (description : ClassDescription) : List String :=
  ["package " ++ description.package ++ ";", ""] ++
    description.importLines ++
    docLines "" description.docs ++
    ["public class " ++ description.name ++ " extends " ++ description.baseClass ++ " \x7b"] ++
    description.members.flatMap (fun member => "" :: member.sourceLines) ++
    "" :: description.constructorLines ++
    description.methods.flatMap (fun method => "" :: method.sourceLines) ++
    ["\x7d"]

/-- The source text of a class. -/
def source (description : ClassDescription) : String :=
  String.join (description.sourceLines.map (· ++ "\n"))

end ClassDescription

end MessageGen
