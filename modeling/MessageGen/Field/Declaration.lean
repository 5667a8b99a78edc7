import MessageGen.Class.Description
import MessageGen.Field.Resolution
import MessageGen.Text.Lines

/-!
# What a field adds to a class

A field adds a member with its documentation, a statement that registers it in the
constructor, and a getter and a setter. The statement lists the versions one by one,
so that nothing depends on a ceiling any more; documentation shows ranges.
-/

namespace MessageGen

/-- The runtime class that describes a field. -/
def fieldClass : String := "ProtocolField"

namespace ResolvedField

/-- A clause of a registration that lists versions; without versions there is none. -/
def versionClause (name : String) (versions : VersionSet) : List String :=
  if versions.isEmpty then [] else ["    ." ++ name ++ "(" ++ versions.listed ++ ")"]

/-- A clause of a registration without an argument. -/
def flagClause (name : String) (holds : Bool) : List String :=
  if holds then ["    ." ++ name ++ "()"] else []

/-- The lines of the statement that registers a field, without its end. -/
def registrationLines (field : ResolvedField) : List String :=
  ["registerField(" ++ fieldClass ++ ".of(\"" ++ field.member ++ "\", \"" ++ field.type.wireName ++
      "\")",
    "    .versions(" ++ field.versions.listed ++ ")"] ++
    versionClause "nullableVersions" field.nullableVersions ++
    versionClause "taggedVersions" field.taggedVersions ++
    (field.attributes.tag.map fun tag =>
      "    .tag(" ++ String.ofList (Text.signedDecimal tag) ++ ")").toList ++
    (field.type.structureName?.map fun name => "    .structType(" ++ name ++ ".class)").toList ++
    flagClause "ignorable" field.attributes.ignorable ++
    flagClause "mapKey" field.attributes.mapKey

/-- The statement that registers a field. -/
def registration (field : ResolvedField) : String :=
  String.intercalate "\n" field.registrationLines ++ ");"

/-- A line of documentation with a range of versions; without versions there is none. -/
def versionDocs (title : String) (versions : VersionSet) (ceiling : Version) : List String :=
  if versions.isEmpty then [] else [title ++ ": " ++ versions.describe ceiling]

/-- The documentation of the member of a field in a class with the versions of a scope. -/
def memberDocs (field : ResolvedField) (scope : VersionSet) (ceiling : Version) : List String :=
  field.attributes.about.elim [] Text.stringLines ++
    (if field.isConditional scope then ["Versions: " ++ field.versions.describe ceiling] else []) ++
    versionDocs "Nullable versions" field.nullableVersions ceiling ++
    versionDocs "Tagged versions" field.taggedVersions ceiling

/-- The member of a field in a class with the versions of a scope. -/
def memberDeclaration (field : ResolvedField) (scope : VersionSet) (ceiling : Version) :
    Member where
  name := field.member
  type := field.memberType
  initialValue := field.initialValue
  docs := field.memberDocs scope ceiling

/-- The documentation of the getter and setter of a field. -/
def accessorDocs (field : ResolvedField) (scope : VersionSet) (ceiling : Version) : List String :=
  if field.isConditional scope then
    ["Only encoded in versions " ++ field.versions.describe ceiling ++ "."]
  else []

/-- What the names of the getter and setter of a field end in. -/
def accessorSuffix (field : ResolvedField) : String :=
  capitalizedName (camelCaseName field.attributes.name)

/-- The getter of a field. -/
def getter (field : ResolvedField) (scope : VersionSet) (ceiling : Version) : Method :=
  { Method.returning ("get" ++ field.accessorSuffix) field.memberType field.member with
    docs := field.accessorDocs scope ceiling }

/-- The setter of a field. -/
def setter (field : ResolvedField) (scope : VersionSet) (ceiling : Version) : Method where
  name := "set" ++ field.accessorSuffix
  returnType := "void"
  parameters := [⟨field.memberType, field.member⟩]
  body := ["this." ++ field.member ++ " = " ++ field.member ++ ";"]
  docs := field.accessorDocs scope ceiling
  isOverride := false

/-- The getter and the setter of a field. -/
def accessors (field : ResolvedField) (scope : VersionSet) (ceiling : Version) : List Method :=
  [field.getter scope ceiling, field.setter scope ceiling]

end ResolvedField

namespace ClassDescription

/--
A class with what its fields add to it. The scope is the set of versions that have the
class.
-/
def withFields (description : ClassDescription) (context : ClassContext) (scope : VersionSet)
    (fields : List ResolvedField) : ClassDescription :=
  let fieldImports := fields.flatMap fun field => field.type.requiredImports
  let runtimeImports := if fields.isEmpty then [] else [context.runtimeClass fieldClass]
  { description with
    imports := sortNames (description.imports ++ fieldImports ++ runtimeImports)
    members := description.members ++
      fields.map fun field => field.memberDeclaration scope context.maxVersion
    constructor := description.constructor ++ fields.map (·.registration)
    methods := description.methods ++
      fields.flatMap fun field => field.accessors scope context.maxVersion }

/-- The methods that every class inherits and none can declare again. -/
def finalMethods : List String := ["getClass"]

/-- The first name of a list that is final or was seen before, starting with the given names. -/
def firstConflict? (seen : List String) : List String → Option String
  | [] => none
  | name :: names =>
    if finalMethods.contains name || seen.contains name then some name
    else firstConflict? (name :: seen) names

/-- Fails with the first method that is final or declared twice. -/
def checkMethods (description : ClassDescription) : Except GenerationError Unit :=
  match firstConflict? [] (description.methods.map (·.name)) with
  | some method => .error (.methodConflict description.name method)
  | none => .ok ()

end ClassDescription

end MessageGen
