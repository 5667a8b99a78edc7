import MessageGen.CommandLine.Request

/-!
# Reading a command line

Arguments are read from left to right, first those before the name of the command, then
those after it. Each of the two parts may give an option once. The value of an option is
attached to it or is the next argument, which then cannot start with a dash, unless it
is a single dash.

Asking for help or for the version ends the reading at once, so it hides what is wrong
further on. An option whose value is an argument of its own is checked when the next
option is read, or at the end of its part; the part before the name of the command ends
after the one behind it.
-/

namespace MessageGen.CommandLine

/-- The options that were given in one part of a command line. -/
structure GivenOptions where
  logLevel : Option LogLevel
  input : Option String
  output : Option String
  config : Option String
  package : Option String
  deriving DecidableEq, Repr, Inhabited

namespace GivenOptions

/-- No options. -/
def none : GivenOptions := ⟨.none, .none, .none, .none, .none⟩

/-- Whether an option was given. -/
def has (options : GivenOptions) : OptionName → Bool
  | .logLevel => options.logLevel.isSome
  | .input => options.input.isSome
  | .output => options.output.isSome
  | .config => options.config.isSome
  | .package => options.package.isSome

/-- Adds an option, which may not have been given before. -/
def give (options : GivenOptions) (name : OptionName) (value : String) :
    Except Interruption GivenOptions :=
  if options.has name then .error (.fault (.repeatedOption name))
  else
    match name with
    | .logLevel =>
      match LogLevel.read? value with
      | some level => .ok { options with logLevel := some level }
      | .none => .error (.fault (.unknownLogLevel value))
    | .input => .ok { options with input := some value }
    | .output => .ok { options with output := some value }
    | .config => .ok { options with config := some value }
    | .package => .ok { options with package := some value }

end GivenOptions

/-- The options of a part: without a command, those before the name of the command. -/
def optionsOf : Option CommandName → List OptionName
  | none => [.logLevel]
  | some .generate => [.logLevel, .input, .output, .config, .package]
  | some .check => [.logLevel, .input]

/-- What a name with dashes stands for. -/
inductive Switch where
  /-- An option that takes a value. -/
  | option (name : OptionName)
  | help
  | version
  deriving DecidableEq, Repr, Inhabited

/-- What a long name stands for in a part. -/
def longSwitch? (command : Option CommandName) (name : String) : Option Switch :=
  if name = "help" then some .help
  else if name = "version" ∧ command = none then some .version
  else ((optionsOf command).find? (·.longName == name)).map .option

/-- What a letter stands for in a part. -/
def letterSwitch? (command : Option CommandName) (letter : Char) : Option Switch :=
  if letter = 'h' then some .help
  else if letter = 'V' ∧ command = none then some .version
  else ((optionsOf command).find? (·.letter? == some letter)).map .option

/-- An argument by its form. -/
inductive Argument where
  /-- Two dashes alone: what follows is no option. -/
  | divider
  /-- A long name, and the value behind an equals sign. -/
  | long (name : String) (value? : Option String)
  /-- A letter, and the text behind it. -/
  | letter (letter : Char) (attached : List Char)
  /-- A word or a value. -/
  | word (text : String)
  deriving DecidableEq, Repr, Inhabited

/-- The form of an argument. -/
def Argument.ofText (text : String) : Argument :=
  match text.toList with
  | ['-', '-'] => .divider
  | '-' :: '-' :: rest =>
    let name := rest.takeWhile (· != '=')
    match rest.dropWhile (· != '=') with
    | [] => .long (String.ofList name) none
    | _ :: value => .long (String.ofList name) (some (String.ofList value))
  | '-' :: first :: attached => .letter first attached
  | _ => .word text

/-- The value that is attached to a letter; an equals sign in front does not count. -/
def attachedValue? : List Char → Option String
  | [] => none
  | '=' :: value => some (String.ofList value)
  | value => some (String.ofList value)

/-- How far a part of a command line is read. -/
structure Progress where
  /-- The options that are checked. -/
  given : GivenOptions
  /-- The last option, if its value is missing or not checked yet. -/
  pending : Option (OptionName × Option String)
  deriving DecidableEq, Repr, Inhabited

namespace Progress

/-- Nothing is read. -/
def start : Progress := ⟨.none, none⟩

/-- Checks the pending option. -/
def settle (progress : Progress) : Except Interruption GivenOptions :=
  match progress.pending with
  | none => .ok progress.given
  | some (name, none) => .error (.fault (.missingValue name))
  | some (name, some value) => progress.given.give name value

/-- Reads an option; an attached value is checked at once. -/
def readOption (progress : Progress) (name : OptionName) (value? : Option String) :
    Except Interruption Progress := do
  let given ← progress.settle
  match value? with
  | some value => return ⟨← given.give name value, none⟩
  | none => return ⟨given, some (name, none)⟩

/-- Checks the pending option and ends the reading. -/
def interrupt (progress : Progress) (interruption : Interruption) :
    Except Interruption Progress := do
  let _ ← progress.settle
  throw interruption

/-- Reads a long name. -/
def readLong (progress : Progress) (command : Option CommandName) (name : String)
    (value? : Option String) : Except Interruption Progress :=
  match longSwitch? command name, value? with
  | none, _ => .error (.fault (.unexpectedArgument ("--" ++ name)))
  | some (.option found), _ => progress.readOption found value?
  | some _, some value => .error (.fault (.unexpectedValue ("--" ++ name) value))
  | some .help, none => progress.interrupt (.help command)
  | some .version, none => progress.interrupt .version

/-- Reads a letter. -/
def readLetter (progress : Progress) (command : Option CommandName) (letter : Char)
    (attached : List Char) : Except Interruption Progress :=
  match letterSwitch? command letter with
  | none => .error (.fault (.unexpectedArgument (String.ofList ['-', letter])))
  | some (.option found) => progress.readOption found (attachedValue? attached)
  | some .help => progress.interrupt (.help command)
  | some .version => progress.interrupt .version

end Progress

/-- The help that is asked for with words behind the word for help. -/
def helpAbout : List String → Interruption
  | [] => .help none
  | [word] =>
    match CommandName.ofWord? word with
    | some command => .help (some command)
    | none => if word = "help" then .help none else .fault (.unknownCommand word)
  | word :: other :: _ =>
    if (CommandName.ofWord? word).isSome || word = "help" then .fault (.unknownCommand other)
    else .fault (.unknownCommand word)

/--
Reads one part of a command line. The part before the name of the command ends with that
name, and the arguments behind it are returned with it.
-/
def readPart (command : Option CommandName) (progress : Progress) :
    List String → Except Interruption (Progress × Option (CommandName × List String))
  | [] => .ok (progress, none)
  | text :: rest =>
    match Argument.ofText text with
    | .divider =>
      match rest with
      | [] => .ok (progress, none)
      | extra :: _ => .error (.fault (.unexpectedArgument extra))
    | .long name value? => do
      readPart command (← progress.readLong command name value?) rest
    | .letter letter attached => do
      readPart command (← progress.readLetter command letter attached) rest
    | .word word =>
      match progress.pending, command with
      | some (name, none), _ =>
        readPart command { progress with pending := some (name, some word) } rest
      | _, some _ => .error (.fault (.unexpectedArgument word))
      | _, none =>
        match CommandName.ofWord? word with
        | some found => .ok (progress, some (found, rest))
        | none =>
          if word = "help" then .error (helpAbout rest)
          else .error (.fault (.unknownCommand word))

/-- The command with the given options. -/
def CommandName.withOptions (command : CommandName) (options : GivenOptions) :
    Except Interruption Command :=
  match options.input with
  | none => .error (.fault .missingInput)
  | some input =>
    match command with
    | .generate =>
      .ok (.generate ⟨input⟩ (options.output.map Path.mk) (options.config.map Path.mk)
        options.package)
    | .check => .ok (.check ⟨input⟩)

/-- Reads a command line. Only errors and warnings are logged when no level is given. -/
def Request.read (arguments : List String) : Except Interruption Request := do
  let (before, found) ← readPart none .start arguments
  match found with
  | none =>
    let _ ← before.settle
    throw (.fault .missingCommand)
  | some (name, rest) =>
    let (behind, _) ← readPart (some name) .start rest
    let options ← behind.settle
    let command ← name.withOptions options
    let shared ← before.settle
    return ⟨command, (options.logLevel.or shared.logLevel).getD .warn⟩

end MessageGen.CommandLine
