import MessageGen.Class.Identifier
import MessageGen.Error
import MessageGen.Storage.Path

/-!
# Settings

The settings say in which package classes are generated, where the classes are that
they extend, and where and under which extension the files go. Settings are checked
before they are used: package names are identifiers joined by points, and the extension
is a bare word.
-/

namespace MessageGen

/-- The settings of a run. -/
structure Settings where
  /-- The package around the packages of all families. -/
  basePackage : String
  /-- The package of the runtime classes, if it is not the base package. -/
  runtimePackage : Option String
  fileExtension : String
  /-- The directory below which files are written. -/
  outputDirectory : Path
  deriving DecidableEq, Repr

namespace Settings

/-- The settings that hold when nothing else is said. -/
def standard : Settings where
  basePackage := "org.wiregen.protocol"
  runtimePackage := none
  fileExtension := "java"
  outputDirectory := ⟨"generated"⟩

instance : Inhabited Settings := ⟨standard⟩

/-- The package of the runtime classes. -/
def runtimePackageName (settings : Settings) : String :=
  settings.runtimePackage.getD settings.basePackage

/-- The parts of a package name between its points. -/
def packageSegments (package : String) : List String :=
  (package.toList.splitOn '.').map String.ofList

/-- Fails unless a package name is made of identifiers joined by points. -/
def checkPackage (key package : String) : Except GenerationError Unit :=
  if package.isEmpty then .error (.settings (.emptyPackage key))
  else
    match (packageSegments package).find? fun segment => !isIdentifier segment.toList with
    | some segment => .error (.settings (.invalidSegment key package segment))
    | none => .ok ()

/-- The characters that an extension cannot have. -/
def separators : List Char := ['.', '/', '\\']

/-- Fails unless an extension is a bare word. -/
def checkExtension (extension : String) : Except GenerationError Unit :=
  if extension.isEmpty || extension.toList.any separators.contains then
    .error (.settings (.invalidExtension extension))
  else .ok ()

/-- Fails unless the settings can be used. -/
def validate (settings : Settings) : Except GenerationError Unit := do
  checkPackage "base_package" settings.basePackage
  match settings.runtimePackage with
  | some package => checkPackage "runtime_package" package
  | none => .ok ()
  checkExtension settings.fileExtension

/-- The settings as a JSON value. -/
def toJson (settings : Settings) : Json :=
  .object
    [("base_package", .string settings.basePackage),
      ("runtime_package", .ofOption settings.runtimePackage),
      ("file_extension", .string settings.fileExtension),
      ("output_dir", .string settings.outputDirectory.text)]

end Settings

end MessageGen
