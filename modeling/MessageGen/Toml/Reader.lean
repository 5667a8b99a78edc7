import MessageGen.Toml.Quote
import MessageGen.Toml.Scalar
import MessageGen.Toml.Table

/-!
# Reading TOML texts

A text is a sequence of lines with a header, a key and its value, or nothing; values
in brackets and braces may go over several lines. Arrays and tables in braces nest up
to a limit. Reading a value takes fuel, one unit for each step into a part; twice the
length of the text is always enough, since two steps take a character.
-/

namespace MessageGen.Toml

open Text

/-- How many arrays and tables in braces a value may have around one another. -/
def nestingLimit : Nat := 80

/-- Whether a character may stand somewhere in a text. Of the controls only the tab may. -/
def isAllowed (character : Char) : Bool :=
  character == '\t' || character == '\n' || character == '\r' ||
    (0x20 ≤ character.toNat && character.toNat != 0x7F)

/-- Whether every carriage return has a line feed behind it. -/
def hasPairedReturns : List Char → Bool
  | [] => true
  | '\r' :: '\n' :: rest => hasPairedReturns rest
  | '\r' :: _ => false
  | _ :: rest => hasPairedReturns rest

/-- Whether a character is a blank inside a line. The end of a line may start with one. -/
def isBlankInLine (character : Char) : Bool :=
  character == ' ' || character == '\t' || character == '\r'

/-- Drops the blanks in front of a text, up to the end of the line. -/
def skipBlanks (text : List Char) : List Char :=
  text.dropWhile isBlankInLine

/-- Drops a comment in front of a text. -/
def skipComment : List Char → List Char
  | '#' :: rest => rest.dropWhile (· != '\n')
  | text => text

/-- Drops blanks, comments and ends of lines in front of a text. -/
def skipLines (text : List Char) : List Char :=
  match _atComment : text.dropWhile isSpace with
  | '#' :: rest => skipLines (rest.dropWhile (· != '\n'))
  | rest => rest
termination_by text.length
decreasing_by
  have outer := (List.dropWhile_suffix (l := text) isSpace).length_le
  have inner := (List.dropWhile_suffix (l := rest) (· != '\n')).length_le
  rw [_atComment, List.length_cons] at outer
  omega

/-- Whether a character may stand in a key without quotes. -/
def isKeyCharacter (character : Char) : Bool :=
  character.isAlphanum || character == '_' || character == '-'

/-- Takes one name of a key from the front of a text. -/
def readName? (text : List Char) : Option (String × List Char) :=
  match text with
  | '"' :: _ | '\'' :: _ => readOneLine? text
  | _ =>
    match text.takeWhile isKeyCharacter with
    | [] => none
    | name => some (String.ofList name, text.dropWhile isKeyCharacter)

/-- Takes a key with its points from the front of a text; blanks may stand around points. -/
def readKey? : Nat → List Char → Option (List String × List Char)
  | 0, _ => none
  | fuel + 1, text => do
    let (name, rest) ← readName? (skipBlanks text)
    match skipBlanks rest with
    | '.' :: rest => do
      let (names, rest) ← readKey? fuel rest
      return (name :: names, rest)
    | rest => return ([name], rest)

/-- Whether a character can stand in a word. -/
def isWordCharacter (character : Char) : Bool :=
  !isSpace character && character != ',' && character != ']' && character != '\x7d' &&
    character != '#'

/-- Takes a scalar that is no string from the front of a text. -/
def readScalar? (text : List Char) : Option (Scalar × List Char) := do
  let word := text.takeWhile isWordCharacter
  let rest := text.dropWhile isWordCharacter
  match rest with
  | ' ' :: digit :: more =>
    if isDate word && digit.isDigit then
      let time := (digit :: more).takeWhile isWordCharacter
      let scalar ← readWord? (word ++ ' ' :: time)
      return (scalar, (digit :: more).dropWhile isWordCharacter)
    else return (← readWord? word, rest)
  | _ => return (← readWord? word, rest)

mutual

/-- Takes a value from the front of a text, with levels of nesting left for its parts. -/
def readValue? : Nat → Nat → List Char → Option (Value × List Char)
  | 0, _, _ => none
  | fuel + 1, depth, text =>
    match text with
    | '[' :: rest => if depth = 0 then none else readItems? fuel (depth - 1) rest []
    | '\x7b' :: rest =>
      if depth = 0 then none else readEntries? fuel (depth - 1) rest ⟨.header, []⟩
    | '"' :: _ | '\'' :: _ =>
      (readString? text).map fun (string, rest) => (.scalar (.string string), rest)
    | _ => (readScalar? text).map fun (scalar, rest) => (.scalar scalar, rest)

/-- Takes the rest of an array, after items in reverse order, from the front of a text. -/
def readItems? : Nat → Nat → List Char → List Value → Option (Value × List Char)
  | 0, _, _, _ => none
  | fuel + 1, depth, text, reversed =>
    match skipLines text with
    | ']' :: rest => some (.array reversed.reverse, rest)
    | atItem => do
      let (item, rest) ← readValue? fuel depth atItem
      match skipLines rest with
      | ',' :: rest => readItems? fuel depth rest (item :: reversed)
      | ']' :: rest => return (.array (item :: reversed).reverse, rest)
      | _ => none

/-- Takes the rest of a table in braces, after its first entries, from the front of a text. -/
def readEntries? : Nat → Nat → List Char → OpenTable → Option (Value × List Char)
  | 0, _, _, _ => none
  | fuel + 1, depth, text, table =>
    match skipLines text with
    | '\x7d' :: rest => some (.table .inPlace table.entries, rest)
    | atKey => do
      let (key, rest) ← readKey? nestingLimit atKey
      match rest with
      | '=' :: rest => do
        let (value, rest) ← readValue? fuel depth (skipBlanks rest)
        let table ← table.insert? key value
        match skipLines rest with
        | ',' :: rest => readEntries? fuel depth rest table
        | '\x7d' :: rest => return (.table .inPlace table.entries, rest)
        | _ => none
      | _ => none

end

/-- Splits off the rest of a line, where only blanks and a comment may stand. -/
def endLine? (text : List Char) : Option (List Char) :=
  match skipComment (skipBlanks text) with
  | [] => some []
  | '\n' :: rest => some rest
  | _ => none

/-- Takes a header after its first bracket from the front of a text. -/
def readHeader? (text : List Char) : Option (Header × List Char) := do
  let (isElement, text) :=
    match text with
    | '[' :: rest => (true, rest)
    | rest => (false, rest)
  let (key, rest) ← readKey? nestingLimit text
  let name ← key.getLast?
  match isElement, rest with
  | false, ']' :: rest | true, ']' :: ']' :: rest => return (⟨key.dropLast, name, isElement⟩, rest)
  | _, _ => none

/-- Takes a key and its value from the front of a text. -/
def readEntry? (text : List Char) : Option (List String × Value × List Char) := do
  let (key, rest) ← readKey? nestingLimit text
  match rest with
  | '=' :: rest => do
    let (value, rest) ← readValue? (2 * rest.length + 2) nestingLimit (skipBlanks rest)
    return (key, value, rest)
  | _ => none

/-- Reads the lines of a text one after another. Each takes a unit of fuel. -/
def readLines? : Nat → Builder → List Char → Option Builder
  | 0, _, _ => none
  | fuel + 1, builder, text =>
    match skipBlanks text with
    | [] => some builder
    | '[' :: rest => do
      let (header, rest) ← readHeader? rest
      let builder ← builder.open? header
      readLines? fuel builder (← endLine? rest)
    | '#' :: _ | '\n' :: _ => do readLines? fuel builder (← endLine? text)
    | atKey => do
      let (key, value, rest) ← readEntry? atKey
      let builder ← builder.insert? key value
      readLines? fuel builder (← endLine? rest)

/-- Drops the mark that may stand in front of a whole text. -/
def dropByteOrderMark : List Char → List Char
  | '\uFEFF' :: rest => rest
  | text => text

/-- The table of a whole text, or nothing if the text is not well-formed. -/
def read? (source : String) : Option Entries := do
  let text := dropByteOrderMark source.toList
  if text.all isAllowed && hasPairedReturns text then
    let builder ← readLines? (text.length + 1) .start text
    return (← builder.finish?).entries
  else none

end MessageGen.Toml
