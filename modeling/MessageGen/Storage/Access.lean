import MessageGen.Storage.Fault
import MessageGen.Storage.Path

/-!
# Access to files

What the generator does with files is written against the few operations of this
class. The operating system provides them for a program that runs, and a file tree
provides them as a value, so that what a run leaves behind can be stated.
-/

namespace MessageGen

/-- Operations on files; a temporary file is known by a handle until it is put in place. -/
class FileAccess (m : Type → Type) (Temporary : outParam Type) where
  readText : Path → m (Except FileFault String)
  isDirectory : Path → m Bool
  /-- Makes a directory inside one that exists. -/
  makeDirectory : Path → m (Except FileFault Unit)
  /-- Makes a file with a fresh name and the given text inside a directory. -/
  createTemporary : Path → String → m (Except FileFault Temporary)
  removeTemporary : Temporary → m Unit
  /-- Gives a temporary file its final path, in place of a file that is there. -/
  moveTemporary : Temporary → Path → m (Except FileFault Unit)

end MessageGen
