import MessageGen.CommandLine.Arguments
import MessageGen.CommandLine.Usage
import MessageGen.Message.Files

/-!
# Running a command

A run is a function of the command line and of the files. It gives the text for both
outputs and the exit code: 0 for success, 1 for a command that fails and 2 for a command
line that is wrong. A command that fails says what it was doing, then why it failed, down
to the cause behind the error.
-/

namespace MessageGen.CommandLine

/-- What a run leaves behind besides files. -/
structure Outcome where
  exitCode : UInt32
  stdout : String
  stderr : String
  deriving DecidableEq, Repr, Inhabited

/-- An error and what was being done. -/
structure Failure where
  /-- What was being done. -/
  activity : String
  error : GenerationError

namespace Failure

/-- A text whose further lines are indented by a number of blanks. -/
def hang (indentation : Nat) (text : String) : String :=
  String.ofList
    ((text.toList.splitOn '\n').intersperse ('\n' :: List.replicate indentation ' ')).flatten

/-- The reasons of a failure: one alone, or a numbered list. -/
def reasons (error : GenerationError) : String :=
  match error.cause? with
  | none => "    " ++ hang 4 error.message
  | some cause => "    0: " ++ hang 7 error.message ++ "\n    1: " ++ hang 7 cause

/-- What is printed about a failure. -/
def report (failure : Failure) : String :=
  "Error: " ++ failure.activity ++ "\n\nCaused by:\n" ++ reasons failure.error ++ "\n"

end Failure

/-- The outcome of a command that has printed a text before it ended. -/
def Outcome.ofResult (printed : String) : Except Failure String → Outcome
  | .ok text => ⟨0, printed ++ text, ""⟩
  | .error failure => ⟨1, printed, failure.report⟩

/-- The outcome when no command is run. -/
def Outcome.ofInterruption : Interruption → Outcome
  | .help command => ⟨0, helpText command, ""⟩
  | .version => ⟨0, versionText, ""⟩
  | .fault fault => ⟨2, "", fault.report⟩

/-- A line for something that is done or found. -/
def tick (text : String) : String :=
  "✓ " ++ text ++ "\n"

/-- What is said about a message that has been checked. -/
def summary (message : ResolvedMessage) (output : GenerationOutput) : List String :=
  ["Message: " ++ message.document.name ++ " (" ++ message.kind.description ++ ")",
    "Family: " ++ message.name.family,
    "Valid versions: " ++ message.validVersions.display,
    "Flexible versions: " ++ message.flexibleVersions.display] ++
  (if message.kind.hasApiKey then
    ["API key: " ++ String.ofList (Text.signedDecimal message.document.apiKey)]
  else []) ++
  ["Structures: " ++ toString output.structures.length]

/-- What is said about written files. -/
def writtenReport (root : Path) (written : List Path) : String :=
  String.join (written.map fun path => tick path.text) ++
    "\nGenerated " ++ toString written.length ++ " file(s) under " ++ root.text ++ "\n"

variable {m : Type → Type} {Temporary : Type} [Monad m] [FileAccess m Temporary]

/-- Work with a name for it, which a failure tells. -/
def during {α : Type} (activity : String) (work : ExceptT GenerationError m α) :
    ExceptT Failure m α :=
  ExceptT.adapt (Failure.mk activity) work

/-- Checks a schema with the standard settings. -/
def checkSchema (input : Path) : ExceptT Failure m String :=
  during ("Invalid schema " ++ input.text) do
    let message ← ResolvedMessage.load input .standard
    let output ← liftExcept message.generate
    return String.join ((summary message output).map tick) ++ "\nSchema is valid!\n"

/-- The settings of a run: those of a file, or the standard ones, with another package. -/
def loadSettings (config : Option Path) (package : Option String) :
    ExceptT Failure m Settings := do
  let settings ←
    match config with
    | some path => during ("Failed to load config " ++ path.text) (Settings.load path)
    | none => pure Settings.standard
  let settings := { settings with basePackage := package.getD settings.basePackage }
  during "Invalid configuration" (liftExcept settings.validate)
  return settings

/-- Generates the classes of a schema and writes them. -/
def generateClasses (input : Path) (output config : Option Path) (package : Option String) :
    ExceptT Failure m String := do
  let settings ← loadSettings config package
  let root := output.getD settings.outputDirectory
  let message ← during ("Failed to load schema " ++ input.text)
    (ResolvedMessage.load input settings)
  let written ← during ("Failed to generate classes for " ++ input.text) (message.write root)
  return writtenReport root written

/-- Runs a command. -/
def Command.run : Command → m Outcome
  | .check input => do
    return .ofResult ("Checking schema: " ++ input.text ++ "\n") (← (checkSchema input).run)
  | .generate input output config package => do
    return .ofResult "" (← (generateClasses input output config package).run)

/-- Runs the program on the arguments of its command line. -/
def run (arguments : List String) : m Outcome :=
  match Request.read arguments with
  | .ok request => request.command.run
  | .error interruption => return .ofInterruption interruption

end MessageGen.CommandLine
