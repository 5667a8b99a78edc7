import MessageGen.Error
import MessageGen.Storage.Access
import MessageGen.Structure.Registry

/-!
# Writing files all or nothing

Every file is first written to a temporary file beside its target. Only when all files
are staged do the temporary files take their places, so a fault up to then leaves no
generated file behind, though it may leave new directories. Putting the files in place
is not one step: a fault there leaves the files before it replaced.
-/

namespace MessageGen

/-- A temporary file and the path that it will take. -/
structure StagedFile (Temporary : Type) where
  temporary : Temporary
  /-- Its path once it is in place. -/
  target : Path

namespace FileAccess

variable {m : Type → Type} {Temporary : Type} [Monad m] [FileAccess m Temporary]

/-- Makes a directory, unless there is one. -/
def ensureDirectory (path : Path) : m (Except FileFault Unit) := do
  match ← makeDirectory path with
  | .ok () => return .ok ()
  | .error fault => if ← isDirectory path then return .ok () else return .error fault

/--
Makes a directory and those that lead to it, unless they are there. The directories
around it are looked at only if it cannot be made without them.
-/
def createDirectories (path : Path) : m (Except FileFault Unit) := do
  if path.text.isEmpty then return .ok ()
  match ← makeDirectory path with
  | .ok () => return .ok ()
  | .error .notFound =>
    match _found : path.parent? with
    | none => return .error .notFound
    | some parent =>
      match ← createDirectories parent with
      | .error fault => return .error fault
      | .ok () => ensureDirectory path
  | .error fault => if ← isDirectory path then return .ok () else return .error fault
termination_by path.text.length
decreasing_by exact Path.length_parent?_lt _found

/-- The directory of a file; a path of one part lies in the working directory. -/
def directoryOf (target : Path) : Path :=
  match target.parent? with
  | some parent => if parent.text.isEmpty then ⟨"."⟩ else parent
  | none => ⟨"."⟩

/-- Writes a text to a temporary file beside its target. -/
def stage (target : Path) (contents : String) : m (Except GenerationError Temporary) := do
  if ← isDirectory target then return .error (.file target.text .outputIsDirectory)
  let directory := directoryOf target
  match ← createDirectories directory with
  | .error fault => return .error (.file directory.text fault)
  | .ok () =>
    match ← createTemporary directory contents with
    | .error fault => return .error (.file target.text fault)
    | .ok temporary => return .ok temporary

/-- Stages files in order. After a fault the files staged before it are removed again. -/
def stageAll : List (Path × String) → m (Except GenerationError (List (StagedFile Temporary)))
  | [] => return .ok []
  | (target, contents) :: files => do
    match ← stage target contents with
    | .error error => return .error error
    | .ok temporary =>
      match ← stageAll files with
      | .ok staged => return .ok (⟨temporary, target⟩ :: staged)
      | .error error =>
        removeTemporary temporary
        return .error error

/-- Puts staged files in place in order. After a fault the others are removed. -/
def moveAll : List (StagedFile Temporary) → m (Except GenerationError (List Path))
  | [] => return .ok []
  | file :: files => do
    match ← moveTemporary file.temporary file.target with
    | .ok () =>
      match ← moveAll files with
      | .ok written => return .ok (file.target :: written)
      | .error error => return .error error
    | .error fault =>
      for left in file :: files do
        removeTemporary left.temporary
      return .error (.file file.target.text fault)

/-- Writes generated files below an output directory and returns their paths. -/
def writeFiles (root : Path) (files : List GeneratedFile) :
    m (Except GenerationError (List Path)) := do
  match ← stageAll (files.map fun file => (root.join file.path, file.contents)) with
  | .error error => return .error error
  | .ok staged => moveAll staged

end FileAccess

end MessageGen
