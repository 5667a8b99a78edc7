import MessageGen.Json.Decoding
import MessageGen.Schema.Comment
import MessageGen.Schema.Document

/-!
# Reading schema documents

The three records of a document are read by their shapes, which list their fields in
order with what each must hold. Fields nest through the fields of structures that are
defined in place; the levels of nesting that are left bound the recursion.
-/

namespace MessageGen

open Json Outline

/-- An optional string field of a record. -/
def textSlot {α : Type} (name : String) (put : α → Option String → α) : Slot α :=
  .of name false (readOptional readText) put

/--
The shape of a field, with the levels of nesting that are left inside it and the reader
of the fields that it may hold.
-/
def fieldShape (inside : Nat) (readNested : Outline → Except Problem (List Field)) :
    Shape Field where
  title := "struct FieldDef"
  blank :=
    { name := "", type := "", versions := allVersions, nullableVersions := none
      taggedVersions := none, tag := none, default := none, about := none, ignorable := false
      mapKey := false, entityType := none, fields := none }
  slots :=
    [.of "name" true readText fun field name => { field with name },
      .of "type" true readText fun field type => { field with type },
      .of "versions" false readText fun field versions => { field with versions },
      textSlot "nullableVersions" fun field nullableVersions => { field with nullableVersions },
      textSlot "taggedVersions" fun field taggedVersions => { field with taggedVersions },
      .of "tag" false (readOptional (readInteger (-2147483648) 2147483647 "i32"))
        fun field tag => { field with tag },
      .of "default" false (readOptional (Json.ofOutline inside))
        fun field default => { field with default },
      textSlot "about" fun field about => { field with about },
      .of "ignorable" false readFlag fun field ignorable => { field with ignorable },
      .of "mapKey" false readFlag fun field mapKey => { field with mapKey },
      textSlot "entityType" fun field entityType => { field with entityType },
      .of "fields" false (readOptional readNested) fun field fields => { field with fields }]

/-- Reads a field with levels of nesting left, given the reader of the fields it may hold. -/
def readFieldWith (readNested : Outline → Except Problem (List Field)) (depth : Nat) :
    Outline → Except Problem Field :=
  (fieldShape (depth - 1) readNested).read depth

/-- Reads a list of fields with levels of nesting left. The list and each field take one. -/
def readFieldList : Nat → Outline → Except Problem (List Field)
  | 0, .array _ _ => .error malformed
  | 1, .array items ending =>
    readItems (readFieldWith (fun _ => .error malformed) 0) items ending
  | depth + 2, .array items ending =>
    readItems (readFieldWith (readFieldList depth) (depth + 1)) items ending
  | _, other => .error (other.unexpected "a sequence")

/-- Reads a field with levels of nesting left. -/
def readField (depth : Nat) : Outline → Except Problem Field :=
  readFieldWith (readFieldList (depth - 1)) depth

/-- The shape of a common structure, with the levels of nesting that are left inside it. -/
def commonStructureShape (inside : Nat) : Shape CommonStructure where
  title := "struct StructDef"
  blank := { name := "", versions := allVersions, fields := [] }
  slots :=
    [.of "name" true readText fun common name => { common with name },
      .of "versions" false readText fun common versions => { common with versions },
      .of "fields" false (readFieldList inside) fun common fields => { common with fields }]

/-- Reads a common structure with levels of nesting left. -/
def readCommonStructure (depth : Nat) : Outline → Except Problem CommonStructure :=
  (commonStructureShape (depth - 1)).read depth

/-- The shape of a document, with the levels of nesting that are left inside it. -/
def documentShape (inside : Nat) : Shape Document where
  title := "struct SchemaDocument"
  blank :=
    { name := "", type := "", apiKey := noApiKey, validVersions := "", flexibleVersions := none
      commonStructures := [], fields := [] }
  slots :=
    [.of "name" true readText fun document name => { document with name },
      .of "type" true readText fun document type => { document with type },
      .of "apiKey" false (readInteger (-32768) 32767 "i16")
        fun document apiKey => { document with apiKey },
      .of "validVersions" true readText
        fun document validVersions => { document with validVersions },
      textSlot "flexibleVersions"
        fun document flexibleVersions => { document with flexibleVersions },
      .of "commonStructs" false (readList inside readCommonStructure)
        fun document commonStructures => { document with commonStructures },
      .of "fields" false (readFieldList inside) fun document fields => { document with fields }]

/-- Reads a document with levels of nesting left. -/
def readDocument (depth : Nat) : Outline → Except Problem Document :=
  (documentShape (depth - 1)).read depth

namespace Field

/-- Reads the text of one field, which has no comments. -/
def parse (text : String) : Except Problem Field :=
  Json.readText (readField nestingLimit) text.toList

/-- Reads the text of a list of fields, which has no comments. -/
def parseList (text : String) : Except Problem (List Field) :=
  Json.readText (readFieldList nestingLimit) text.toList

end Field

/-- Reads the text of one common structure, which has no comments. -/
def CommonStructure.parse (text : String) : Except Problem CommonStructure :=
  Json.readText (readCommonStructure nestingLimit) text.toList

/-- Reads the text of a schema, with comments. -/
def Document.parse (text : String) : Except Problem Document :=
  Json.readText (readDocument nestingLimit) (stripComments text.toList)

end MessageGen
