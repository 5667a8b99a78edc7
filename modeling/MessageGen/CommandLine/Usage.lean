import MessageGen.CommandLine.Request

/-!
# Help and usage

The texts that the program prints when no command is run.
-/

namespace MessageGen.CommandLine

/-- The name and the version of the program. -/
def versionText : String := "wiregen 0.1.0\n"

/-- The help about all commands. -/
def generalHelp : String :=
  "Generate Java message classes from protocol schemas\n\n" ++
  "Usage: wiregen [OPTIONS] <COMMAND>\n\n" ++
  "Commands:\n" ++
  "  generate  Generate the message class and its structures\n" ++
  "  check     Resolve a schema and print what would be generated\n" ++
  "  help      Print this message or the help of the given subcommand(s)\n\n" ++
  "Options:\n" ++
  "      --log-level <LOG_LEVEL>  Log level [default: warn]\n" ++
  "  -h, --help                   Print help\n" ++
  "  -V, --version                Print version\n"

/-- The help about generating classes. -/
def generateHelp : String :=
  "Generate the message class and its structures\n\n" ++
  "Usage: wiregen generate [OPTIONS] --input <INPUT>\n\n" ++
  "Options:\n" ++
  "  -i, --input <INPUT>          Path to the JSON schema\n" ++
  "      --log-level <LOG_LEVEL>  Log level [default: warn]\n" ++
  "  -o, --output <OUTPUT>        Output root (default: output_dir from the config)\n" ++
  "  -c, --config <CONFIG>        Path to a wiregen.toml config\n" ++
  "  -p, --package <PACKAGE>      Base package, overrides the config\n" ++
  "  -h, --help                   Print help\n"

/-- The help about checking a schema. -/
def checkHelp : String :=
  "Resolve a schema and print what would be generated\n\n" ++
  "Usage: wiregen check [OPTIONS] --input <INPUT>\n\n" ++
  "Options:\n" ++
  "  -i, --input <INPUT>          Path to the JSON schema\n" ++
  "      --log-level <LOG_LEVEL>  Log level [default: warn]\n" ++
  "  -h, --help                   Print help\n"

/-- The help about one command, or about all. -/
def helpText : Option CommandName → String
  | none => generalHelp
  | some .generate => generateHelp
  | some .check => checkHelp

/-- An option as its long name is written. -/
def OptionName.dashed (name : OptionName) : String :=
  "--" ++ name.longName

/-- The message of a fault. -/
def UsageFault.message : UsageFault → String
  | .unexpectedArgument text => "unexpected argument '" ++ text ++ "' found"
  | .unexpectedValue name value => "unexpected value '" ++ value ++ "' for '" ++ name ++ "' found"
  | .missingValue option => "a value is required for '" ++ option.dashed ++ "'"
  | .repeatedOption option => "'" ++ option.dashed ++ "' cannot be used multiple times"
  | .unknownLogLevel text => "invalid value '" ++ text ++ "' for '--log-level'"
  | .missingInput => "the required argument '--input' was not provided"
  | .missingCommand => "a subcommand is required"
  | .unknownCommand text => "unrecognized subcommand '" ++ text ++ "'"

/-- What is printed about a fault. -/
def UsageFault.report (fault : UsageFault) : String :=
  "error: " ++ fault.message ++ "\n\nFor more information, try '--help'.\n"

end MessageGen.CommandLine
