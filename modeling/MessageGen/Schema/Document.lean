import MessageGen.Json.Value
import MessageGen.Version.Set

/-!
# Schema documents

A document describes one message: its name, its kind, the versions it exists in, and
its fields in order. A field may define a structure in place by fields of its own;
structures that several fields use are declared once beside the fields.
-/

namespace MessageGen

/-- What a field declares, apart from the fields of a structure of its own. -/
structure FieldAttributes where
  name : String
  /-- The type as it is written. -/
  type : String
  /-- The versions that have the field. -/
  versions : String
  /-- The versions in which the field may be null. -/
  nullableVersions : Option String
  /-- The versions in which the field is tagged. -/
  taggedVersions : Option String
  tag : Option Int
  default : Option Json
  /-- What the field is for. -/
  about : Option String
  /-- Whether a reader may ignore the field. -/
  ignorable : Bool
  /-- Whether the field is the key of a map. -/
  mapKey : Bool
  /-- What kind of entity the field names. -/
  entityType : Option String
  deriving Inhabited

/-- A field of a message or of a structure. -/
structure Field extends FieldAttributes where
  /-- The fields of the structure that the field defines in place. -/
  fields : Option (List Field)

instance : Inhabited Field := ⟨⟨default, none⟩⟩

/-- A structure that is declared beside the fields. -/
structure CommonStructure where
  name : String
  versions : String
  fields : List Field
  deriving Inhabited

/-- The description of one message. -/
structure Document where
  name : String
  /-- The declared kind of the message. -/
  type : String
  /-- The key of the call; `-1` if there is none. -/
  apiKey : Int
  validVersions : String
  /-- The versions with flexible fields. -/
  flexibleVersions : Option String
  /-- The structures that several fields use. -/
  commonStructures : List CommonStructure
  fields : List Field
  deriving Inhabited

/-- The range of a field or structure that declares no versions. -/
def allVersions : String := "0+"

/-- The API key of a message that declares none. -/
def noApiKey : Int := -1

end MessageGen
