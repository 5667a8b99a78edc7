import MessageGen.Version.Set
import MessageGen.Json.Problem
import MessageGen.Storage.Fault

/-!
# Errors

An error names its cause by the parts that a caller may want to look at; its wording is
fixed in one place, `GenerationError.message`. Every error about a schema is found
before anything is written.
-/

namespace MessageGen

/-- What is wrong with a version range. -/
inductive RangeFault where
  /-- There is nothing but blanks. -/
  | empty
  /-- A version is wanted and the text is no number. -/
  | notANumber (text : String)
  /-- The number is above the greatest version. -/
  | outOfRange (text : String)
  /-- The lower bound is above the upper one. -/
  | reversedBounds
  /-- An open range starts above the highest valid version. -/
  | startsAfterHighest (highest : Version)
  /-- A flexible version is not a valid one. -/
  | notValid (version : Version) (valid : VersionSet)
  /-- A tagged version of a field is not a flexible one. -/
  | notFlexible (field : String) (flexible : VersionSet)
  deriving DecidableEq

/-- What is wrong with the settings. -/
inductive SettingsFault where
  /-- The text of the settings cannot be read. -/
  | unreadable
  | emptyPackage (key : String)
  /-- A part of a package name is no identifier. -/
  | invalidSegment (key package segment : String)
  /-- The file extension is empty or holds a separator. -/
  | invalidExtension (extension : String)
  deriving DecidableEq

/-- Why classes cannot be generated for a schema. -/
inductive GenerationError where
  /-- A version range does not follow the grammar, or not the versions around it. -/
  | malformedRange (expression : String) (fault : RangeFault)
  | invalidName (name : String)
  | unknownMessageKind (declared : String)
  /-- A field has a type without a class type. -/
  | unsupportedType (field type : String)
  | invalidDefault (field : String) (value : Json)
  /-- A field refers to a structure that is nowhere defined. -/
  | unknownStructure (field name : String)
  /-- A class would declare a method twice, or one that cannot be declared. -/
  | methodConflict (className method : String)
  | schema (path : String) (problem : Json.Problem)
  | file (path : String) (fault : FileFault)
  | settings (fault : SettingsFault)

/-- The reason that a message gives for a fault of a version range. -/
def RangeFault.message : RangeFault → String
  | .empty => "empty expression"
  | .notANumber text => "'" ++ text ++ "' is not a version number"
  | .outOfRange text => "version " ++ text ++ " is out of range"
  | .reversedBounds => "lower bound exceeds upper bound"
  | .startsAfterHighest highest =>
    "starts after the highest valid version " ++ toString highest.toNat
  | .notValid version valid =>
    "version " ++ toString version.toNat ++ " is not a valid version (" ++ valid.display ++ ")"
  | .notFlexible field flexible =>
    "tagged versions of " ++ field ++ " must be flexible versions (" ++ flexible.display ++ ")"

/-- The wording of a fault of the settings. -/
def SettingsFault.message : SettingsFault → String
  | .unreadable => "malformed TOML"
  | .emptyPackage key => key ++ " cannot be empty"
  | .invalidSegment key package segment =>
    key ++ " '" ++ package ++ "' has invalid segment '" ++ segment ++ "'"
  | .invalidExtension extension =>
    "file_extension '" ++ extension ++ "' must be a bare extension such as 'java'"

namespace GenerationError

/-- The message of an error. -/
def message : GenerationError → String
  | malformedRange expression fault =>
    "malformed version range '" ++ expression ++ "': " ++ fault.message
  | invalidName name => "invalid message name: " ++ name
  | unknownMessageKind declared => "unknown message kind: " ++ declared
  | unsupportedType field type => "unsupported type '" ++ type ++ "' for field " ++ field
  | invalidDefault field value => "invalid default " ++ value.compact ++ " for field " ++ field
  | unknownStructure field name => "field " ++ field ++ " refers to undefined structure " ++ name
  | methodConflict className method =>
    "method " ++ method ++ " of class " ++ className ++ " conflicts with another method"
  | schema path problem => "failed to parse schema " ++ path ++ ": " ++ problem.message
  | file path fault => "I/O error on " ++ path ++ ": " ++ fault.message
  | settings fault => "configuration error: " ++ fault.message

/-- The message of the cause behind an error, where the error has one of its own. -/
def cause? : GenerationError → Option String
  | schema _ problem => some problem.message
  | file _ fault => some fault.message
  | _ => none

end GenerationError

end MessageGen
