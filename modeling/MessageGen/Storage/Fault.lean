/-!
# Why a file operation fails

The faults are those of a POSIX file system, with the number that the system gives
them, and two that are found before the system is asked.
-/

namespace MessageGen

/-- Why a file operation fails. -/
inductive FileFault where
  | notFound
  | notADirectory
  /-- A directory stands where a file is wanted. -/
  | isADirectory
  /-- There is something already where a new entry is wanted. -/
  | alreadyExists
  | nameTooLong
  /-- A path holds the character that ends a path for the system. -/
  | embeddedNul
  /-- A file does not hold text. -/
  | notText
  /-- A generated file would take the place of a directory. -/
  | outputIsDirectory
  /-- Any other fault, as the system describes it. -/
  | other (description : String)
  deriving DecidableEq, Repr, Inhabited

/-- The text of a fault with its number. -/
def FileFault.message : FileFault → String
  | .notFound => "No such file or directory (os error 2)"
  | .notADirectory => "Not a directory (os error 20)"
  | .isADirectory => "Is a directory (os error 21)"
  | .alreadyExists => "File exists (os error 17)"
  | .nameTooLong => "File name too long (os error 36)"
  | .embeddedNul => "file name contained an unexpected NUL byte"
  | .notText => "stream did not contain valid UTF-8"
  | .outputIsDirectory => "output path is a directory"
  | .other description => description

end MessageGen
