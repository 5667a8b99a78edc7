import MessageGen.Settings.Basic
import MessageGen.Toml.Reader

/-!
# Reading settings

Settings are the strings of four names at the top of a TOML text. Each keeps its
standard value when it is left out; other names have no meaning and are passed over.
-/

namespace MessageGen.Settings

/-- The string of a name; the name may be left out, but may not have another value. -/
def readString? (entries : Toml.Entries) (name : String) : Except GenerationError (Option String) :=
  match Toml.Entries.find? entries name with
  | none => .ok none
  | some (.scalar (.string text)) => .ok (some text)
  | some _ => .error (.settings .unreadable)

/-- The settings of a table. -/
def ofEntries (entries : Toml.Entries) : Except GenerationError Settings := do
  let basePackage ← readString? entries "base_package"
  let runtimePackage ← readString? entries "runtime_package"
  let fileExtension ← readString? entries "file_extension"
  let outputDirectory ← readString? entries "output_dir"
  return {
    basePackage := basePackage.getD standard.basePackage
    runtimePackage
    fileExtension := fileExtension.getD standard.fileExtension
    outputDirectory := outputDirectory.elim standard.outputDirectory Path.mk }

/-- Reads settings and checks them. -/
def parse (text : String) : Except GenerationError Settings := do
  match Toml.read? text with
  | none => .error (.settings .unreadable)
  | some entries =>
    let settings ← ofEntries entries
    settings.validate
    return settings

end MessageGen.Settings
