import MessageGen.Message.Generation
import MessageGen.Settings.Reader
import MessageGen.Storage.Staging

/-!
# Schemas and settings in files

A schema file is read and resolved, and the files of its message are written below an
output directory. Nothing is written before all classes are made.
-/

namespace MessageGen

variable {m : Type → Type} {Temporary : Type} [Monad m] [FileAccess m Temporary]

/-- Reads a text file; an error names its path. -/
def readTextFile (path : Path) : ExceptT GenerationError m String :=
  ExceptT.mk do
    match ← FileAccess.readText path with
    | .ok contents => return .ok contents
    | .error fault => return .error (.file path.text fault)

namespace Settings

/-- Reads settings from a file and checks them. -/
def load (path : Path) : ExceptT GenerationError m Settings := do
  let contents ← readTextFile path
  liftExcept (parse contents)

end Settings

namespace ResolvedMessage

/-- Reads a schema from a file and resolves it. An error about its text names the path. -/
def load (path : Path) (settings : Settings) : ExceptT GenerationError m ResolvedMessage := do
  let contents ← readTextFile path
  let document ← liftExcept ((Document.parse contents).mapError (GenerationError.schema path.text))
  liftExcept (resolve document settings)

/-- Generates the files of a message and writes them below an output directory. -/
def write (message : ResolvedMessage) (root : Path) : ExceptT GenerationError m (List Path) := do
  let output ← liftExcept message.generate
  ExceptT.mk (FileAccess.writeFiles root output.files)

end ResolvedMessage

end MessageGen
