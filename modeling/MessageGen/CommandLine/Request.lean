import MessageGen.Storage.Path
import MessageGen.Text.Numeral

/-!
# What a command line asks for

There are two commands. One generates the classes of a schema, the other one checks a
schema without writing anything. A command line may instead ask for help or for the
version of the program, and it may be wrong in ways that `UsageFault` lists.
-/

namespace MessageGen.CommandLine

/-- The name of a command. -/
inductive CommandName where
  | generate
  | check
  deriving DecidableEq, Repr, Inhabited

/-- The word for a command. -/
def CommandName.word : CommandName → String
  | .generate => "generate"
  | .check => "check"

/-- The command for a word. -/
def CommandName.ofWord? (word : String) : Option CommandName :=
  [CommandName.generate, .check].find? (·.word == word)

/-- An option that takes a value. -/
inductive OptionName where
  | logLevel
  | input
  | output
  | config
  | package
  deriving DecidableEq, Repr, Inhabited

/-- The long name of an option, without the dashes. -/
def OptionName.longName : OptionName → String
  | .logLevel => "log-level"
  | .input => "input"
  | .output => "output"
  | .config => "config"
  | .package => "package"

/-- The letter of an option, if it has one. -/
def OptionName.letter? : OptionName → Option Char
  | .logLevel => none
  | .input => some 'i'
  | .output => some 'o'
  | .config => some 'c'
  | .package => some 'p'

/-- How much is logged. -/
inductive LogLevel where
  | error
  /-- Warnings too. -/
  | warn
  /-- What the program does, too. -/
  | info
  /-- Details too. -/
  | debug
  /-- All there is. -/
  | trace
  deriving DecidableEq, Repr, Inhabited

/-- The level for a text: its name in any case, or its number from 1 on. -/
def LogLevel.read? (text : String) : Option LogLevel :=
  let digits :=
    match text.toList with
    | '+' :: rest => rest
    | characters => characters
  match Text.readDecimal? digits with
  | some 1 => some .error
  | some 2 => some .warn
  | some 3 => some .info
  | some 4 => some .debug
  | some 5 => some .trace
  | some _ => none
  | none =>
    match String.ofList (text.toList.map Char.toLower) with
    | "error" => some .error
    | "warn" => some .warn
    | "info" => some .info
    | "debug" => some .debug
    | "trace" => some .trace
    | _ => none

/-- A command with all that it needs. -/
inductive Command where
  | generate (input : Path) (output config : Option Path) (package : Option String)
  | check (input : Path)
  deriving DecidableEq, Repr, Inhabited

/-- What a valid command line asks for. -/
structure Request where
  command : Command
  logLevel : LogLevel
  deriving DecidableEq, Repr, Inhabited

/-- What is wrong with a command line. -/
inductive UsageFault where
  | unexpectedArgument (text : String)
  | unexpectedValue (name value : String)
  | missingValue (option : OptionName)
  | repeatedOption (option : OptionName)
  | unknownLogLevel (text : String)
  | missingInput
  | missingCommand
  | unknownCommand (text : String)
  deriving DecidableEq, Repr, Inhabited

/-- Why no command is run. -/
inductive Interruption where
  | help (command : Option CommandName)
  | version
  | fault (fault : UsageFault)
  deriving DecidableEq, Repr, Inhabited

end MessageGen.CommandLine
