import MessageGen.Message.Kind
import MessageGen.Schema.Reader
import MessageGen.Settings.Basic
import MessageGen.Structure.Emission

/-!
# Generating the classes of a message

A document is resolved once: its kind, its family and its versions. The classes are
then made in memory, the common structures first, then the structures of the fields,
then the message. Whatever is wrong with a document is found before any file exists.
-/

namespace MessageGen

/-- A document whose kind, family and versions are known, with the settings for it. -/
structure ResolvedMessage where
  document : Document
  settings : Settings
  kind : MessageKind
  /-- The family, and whether the name is that of a header. -/
  name : MessageName
  validVersions : VersionSet
  /-- The versions with flexible fields. -/
  flexibleVersions : VersionSet

/-- The files of one run. -/
structure GenerationOutput where
  /-- The file of the message. -/
  message : GeneratedFile
  /-- The files of the structures, in the order in which they were made. -/
  structures : List GeneratedFile
  deriving DecidableEq, Repr, Inhabited

namespace GenerationOutput

/-- All files, the structures first. -/
def files (output : GenerationOutput) : List GeneratedFile :=
  output.structures ++ [output.message]

/-- The first file that declares a class. -/
def file? (output : GenerationOutput) (className : String) : Option GeneratedFile :=
  output.files.find? (·.className == className)

end GenerationOutput

namespace ResolvedMessage

/-- Resolves a document. The settings are checked first. -/
def resolve (document : Document) (settings : Settings) :
    Except GenerationError ResolvedMessage := do
  settings.validate
  let (kind, name) ← MessageKind.resolve document.name document.type
  let validVersions ← VersionRange.resolve document.validVersions none
  let flexibleVersions ←
    match document.flexibleVersions with
    | some expression => VersionRange.resolveFlexible expression validVersions
    | none => .ok .empty
  return { document, settings, kind, name, validVersions, flexibleVersions }

/-- The highest version of the message. -/
def maxVersion (message : ResolvedMessage) : Version :=
  message.validVersions.max?.getD 0

/-- The package of the classes: the base package and the family. -/
def package (message : ResolvedMessage) : String :=
  message.settings.basePackage ++ "." ++ packageSegment message.name.family

/-- The directory of the classes, below the output directory. -/
def familyDirectory (message : ResolvedMessage) : Path :=
  .ofPieces (Settings.packageSegments message.package)

/-- The path of the file of the message, below the output directory. -/
def filePath (message : ResolvedMessage) : Path :=
  message.familyDirectory.push (message.document.name ++ "." ++ message.settings.fileExtension)

/-- What the classes of the document share. -/
def context (message : ResolvedMessage) : ClassContext where
  package := message.package
  runtimePackage := message.settings.runtimePackageName
  directory := message.familyDirectory
  extension := message.settings.fileExtension
  sourceName := message.document.name
  validVersions := message.validVersions
  flexibleVersions := message.flexibleVersions

/-- The method that returns the API key. -/
def apiKeyMethod (message : ResolvedMessage) : Method :=
  { Method.returning "getRequestApiKey" "int"
      (String.ofList (Text.signedDecimal message.document.apiKey)) with
    isOverride := true }

/-- The method that returns the highest version. -/
def maxVersionMethod (message : ResolvedMessage) : Method :=
  { Method.returning "getMaxSupportedVersion" "int" (toString message.maxVersion.toNat) with
    isOverride := true }

/-- The method that returns the flexible versions. -/
def flexibleVersionsMethod (message : ResolvedMessage) : Method :=
  { Method.returning "getFlexibleVersions" "List<Integer>"
      ("List.of(" ++ message.flexibleVersions.listed ++ ")") with
    isOverride := true }

/-- The methods that a message has by its kind, beside those of its fields. -/
def kindMethods (message : ResolvedMessage) : List Method :=
  match message.kind with
  | .request => [message.apiKeyMethod, message.maxVersionMethod, message.flexibleVersionsMethod]
  | .response => [message.apiKeyMethod, message.flexibleVersionsMethod]
  | .requestHeader | .responseHeader => [message.flexibleVersionsMethod]

/-- The class of the message with the given resolved fields. -/
def messageClass (message : ResolvedMessage) (context : ClassContext)
    (fields : List ResolvedField) : ClassDescription :=
  let summary := message.document.name ++ " " ++ message.kind.description ++ ", versions " ++
    message.validVersions.describe message.maxVersion ++ "."
  let described := ClassDescription.withFields
    { package := context.package
      name := message.document.name
      baseClass := message.kind.baseClass
      imports := sortNames [context.runtimeClass message.kind.baseClass, "java.util.List"]
      docs := context.classDocs summary
      members := []
      constructor := []
      methods := [] }
    context message.validVersions fields
  { described with methods := described.methods ++ message.kindMethods }

/-- Makes the classes of common structures in order. -/
def emitCommons (context : ClassContext) : List CommonStructure → Emission Unit
  | [] => pure ()
  | common :: commons => do
    emitCommon context common
    emitCommons context commons

/--
Makes the structures of the document and the class of the message. References are
checked once all structures are made, and the methods of the message last.
-/
def emitMessage (message : ResolvedMessage) (context : ClassContext) :
    Emission ClassDescription := do
  emitCommons context message.document.commonStructures
  let fields ← emitFields context message.document.fields
  Emission.ofExcept (← get).checkReferences
  let description := message.messageClass context fields
  Emission.ofExcept description.checkMethods
  return description

/-- Generates the files of the message and of its structures. -/
def generate (message : ResolvedMessage) : Except GenerationError GenerationOutput :=
  match (message.emitMessage message.context).runWith ∅ with
  | (.ok description, registry) =>
    .ok ⟨⟨message.filePath, message.document.name, description.source⟩, registry.files⟩
  | (.error error, _) => .error error

end ResolvedMessage

end MessageGen
