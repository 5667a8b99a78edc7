import MessageGen.CommandLine.Run

/-!
# The program

The command line runs on the files of the operating system. Its faults are told apart by
the numbers that the system gives them.
-/

namespace MessageGen

/-- The number of a fault. Some operations give it with a minus sign, as a wrapped number. -/
def faultNumber (code : UInt32) : Nat :=
  if code.toNat < 2147483648 then code.toNat else 4294967296 - code.toNat

/-- A fault that is known by what the system says about it. -/
def FileFault.ofSystem (code : UInt32) (details : String) : FileFault :=
  match faultNumber code with
  | 2 => .notFound
  | 17 => .alreadyExists
  | 20 => .notADirectory
  | 21 => .isADirectory
  | 36 => .nameTooLong
  | number => .other (details ++ " (os error " ++ toString number ++ ")")

/-- The fault behind an error of the system. -/
def FileFault.ofError (error : IO.Error) : FileFault :=
  match error with
  | .alreadyExists _ code details | .noFileOrDirectory _ code details
  | .inappropriateType _ code details | .invalidArgument _ code details
  | .permissionDenied _ code details | .resourceExhausted _ code details
  | .otherError code details | .illegalOperation code details
  | .resourceBusy code details | .unsupportedOperation code details
  | .hardwareFault code details | .unsatisfiedConstraints code details
  | .noSuchThing _ code details | .interrupted _ code details => .ofSystem code details
  | _ => .other error.toString

/-- Runs an operation of the system on a path. -/
def Path.operate {α : Type} (path : Path) (operation : IO α) : IO (Except FileFault α) := do
  if path.text.toList.contains '\x00' then return .error .embeddedNul
  try
    return .ok (← operation)
  catch error =>
    return .error (.ofError error)

/-- Reads a file as text. -/
def Path.readText (path : Path) : IO (Except FileFault String) := do
  match ← path.operate (IO.FS.readBinFile path.text) with
  | .error fault => return .error fault
  | .ok bytes =>
    match String.fromUTF8? bytes with
    | some text => return .ok text
    | none => return .error .notText

/-- Whether a path leads to a directory of the system. -/
def Path.isDirectory (path : Path) : IO Bool := do
  let found ← path.operate do
    let place ← IO.FS.realPath path.text
    place.isDir
  return found.toOption.getD false

/-- A random name for a temporary file. -/
def randomName : IO String := do
  let mut name := ".tmp"
  for _ in List.range 6 do
    name := name.push (Char.ofNat ('a'.toNat + (← IO.rand 0 25)))
  return name

/-- Makes a new file with a random name; other names are tried while names are taken. -/
def Path.createTemporary (directory : Path) (contents : String) :
    Nat → IO (Except FileFault Path)
  | 0 => return .error .alreadyExists
  | attempts + 1 => do
    let path := directory.push (← randomName)
    let made ← path.operate do
      let handle ← IO.FS.Handle.mk path.text .writeNew
      handle.putStr contents
    match made with
    | .ok () => return .ok path
    | .error .alreadyExists => directory.createTemporary contents attempts
    | .error fault => return .error fault

instance : FileAccess IO Path where
  readText path := path.readText
  isDirectory path := path.isDirectory
  makeDirectory path := path.operate (IO.FS.createDir path.text)
  createTemporary directory contents := directory.createTemporary contents 1000
  removeTemporary path := do
    let _ ← path.operate (IO.FS.removeFile path.text)
  moveTemporary path target := target.operate (IO.FS.rename path.text target.text)

end MessageGen

/-- Runs the program, prints what it has to say and returns the exit code. -/
def main (arguments : List String) : IO UInt32 := do
  let outcome ← MessageGen.CommandLine.run arguments
  (← IO.getStdout).putStr outcome.stdout
  (← IO.getStderr).putStr outcome.stderr
  return outcome.exitCode
