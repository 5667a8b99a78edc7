import MessageGen.Storage.Path
import MessageGen.Version.Set

/-!
# What the classes of one document share

The class of a message and the classes of its structures lie in one package and one
directory, extend classes of one runtime package, and are documented with the name of
the message they come from.
-/

namespace MessageGen

/-- What the classes of one document share. -/
structure ClassContext where
  package : String
  /-- The package of the classes that they extend and use. -/
  runtimePackage : String
  /-- The directory of the classes below the output directory. -/
  directory : Path
  extension : String
  sourceName : String
  validVersions : VersionSet
  flexibleVersions : VersionSet

namespace ClassContext

/-- The highest valid version, where open ranges of fields end. -/
def maxVersion (context : ClassContext) : Version :=
  context.validVersions.max?.getD 0

/-- The path of the file of a class below the output directory. -/
def filePath (context : ClassContext) (className : String) : Path :=
  context.directory.push (className ++ "." ++ context.extension)

/-- The full name of a class of the runtime package. -/
def runtimeClass (context : ClassContext) (className : String) : String :=
  context.runtimePackage ++ "." ++ className

/-- The documentation of a class: a summary, and where the class comes from. -/
def classDocs (context : ClassContext) (summary : String) : List String :=
  [summary, "", "Generated by wiregen from the " ++ context.sourceName ++ " schema. Do not edit."]

end ClassContext

end MessageGen
