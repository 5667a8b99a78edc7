import MessageGen.Text.Case

/-!
# Identifiers of generated classes

Names of fields become names of members: the words of `TimeoutMs` or `timeout_ms` are
joined to `timeoutMs`, and a name that is reserved in Java gets an underscore at its
end. Identifiers are ASCII here, while the case of letters follows the whole of
Unicode, so that any text has a camel-case form.
-/

namespace MessageGen

open Text

/-- Whether a character can start an identifier. -/
def isIdentifierStart (character : Char) : Bool :=
  character.isAlpha || character == '_' || character == '$'

/-- Whether a character can stand inside an identifier. -/
def isIdentifierPart (character : Char) : Bool :=
  isIdentifierStart character || character.isDigit

/-- Whether a text is an identifier. -/
def isIdentifier (text : List Char) : Bool :=
  match text with
  | [] => false
  | first :: rest => isIdentifierStart first && rest.all isIdentifierPart

/--
Joins the words of a name after its first letter. An underscore is dropped and makes
the next letter a capital.
-/
def joinWords (capitalizeNext : Bool) : List Char → List Char
  | [] => []
  | character :: rest =>
    if character = '_' then joinWords true rest
    else (if capitalizeNext then upperCase character else [character]) ++ joinWords false rest

/--
The camel-case form of a name. Underscores in front are dropped, and the first letter
becomes small. A mapping of the first letter to nothing would leave the next letter to
be the first; no letter has such a mapping.
-/
def camelCase (name : List Char) : List Char :=
  match name.dropWhile (· == '_') with
  | [] => []
  | first :: rest => lowerCase first ++ joinWords false rest

/-- Makes the first letter of a text a capital. -/
def capitalize : List Char → List Char
  | [] => []
  | first :: rest => upperCase first ++ rest

/-- The words that are reserved in Java, with the literals that cannot be names either. -/
def reservedWords : List String :=
  ["abstract", "assert", "boolean", "break", "byte", "case", "catch", "char", "class", "const",
    "continue", "default", "do", "double", "else", "enum", "extends", "final", "finally",
    "float", "for", "goto", "if", "implements", "import", "instanceof", "int", "interface",
    "long", "native", "new", "package", "private", "protected", "public", "return", "short",
    "static", "strictfp", "super", "switch", "synchronized", "this", "throw", "throws",
    "transient", "try", "void", "volatile", "while", "true", "false", "null"]

/-- A name that can be declared: a reserved word gets an underscore at its end. -/
def safeIdentifier (name : String) : String :=
  if reservedWords.contains name then name ++ "_" else name

/-- The camel-case form of a name, as a string. -/
def camelCaseName (name : String) : String :=
  String.ofList (camelCase name.toList)

/-- A text with a capital first letter, as a string. -/
def capitalizedName (name : String) : String :=
  String.ofList (capitalize name.toList)

/-- The name of the member for a field. -/
def memberName (fieldName : String) : String :=
  safeIdentifier (camelCaseName fieldName)

/-- The part of a package name for a family: its ASCII letters are small. -/
def packageSegment (family : String) : String :=
  String.ofList (lowerAscii family.toList)

end MessageGen
