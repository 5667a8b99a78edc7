import MessageGen.CommandLine.Run
import MessageGen.Proofs.Message.Agreement
import MessageGen.Proofs.Message.Order
import MessageGen.Proofs.Message.AllOrNothing

/-!
# The verdict on a schema

A check resolves a schema and makes its classes with the standard settings, and a run that
generates does the same with settings of its own before it writes anything. Settings that
can be used make no difference to the outcome, so a schema that passes the check is never
rejected later, and one that fails it fails in the same way under all settings.
-/

namespace MessageGen

namespace FileTree

variable {α β ε : Type} {tree : FileTree}

theorem runOn_exceptT_bind (first : ExceptT ε (StateM FileTree) α)
    (next : α → ExceptT ε (StateM FileTree) β) :
    tree.runOn (first >>= next).run =
      match tree.runOn first.run with
      | (.ok value, after) => after.runOn (next value).run
      | (.error failure, after) => (.error failure, after) := by
  rw [ExceptT.run_bind, runOn_bind]
  rcases tree.runOn first.run with ⟨_ | value, after⟩ <;> rfl

/-- Steps that leave the tree alone end as they do without a tree. -/
theorem runOn_bind_of_unchanged {first : ExceptT ε (StateM FileTree) α}
    {next : α → ExceptT ε (StateM FileTree) β} {outcome : Except ε α}
    {nextOutcome : α → Except ε β} (firstRun : tree.runOn first.run = (outcome, tree))
    (nextRun : ∀ value, tree.runOn (next value).run = (nextOutcome value, tree)) :
    tree.runOn (first >>= next).run = (outcome >>= nextOutcome, tree) := by
  rw [runOn_exceptT_bind, firstRun]
  cases outcome with
  | error failure => rfl
  | ok value => exact nextRun value

theorem runOn_liftExcept (outcome : Except ε α) :
    tree.runOn (liftExcept outcome : ExceptT ε (StateM FileTree) α).run = (outcome, tree) := by
  cases outcome <;> rfl

/-- The document in a schema file. -/
def readDocument (tree : FileTree) (path : Path) : Except GenerationError Document := do
  let contents ← (tree.readText path).mapError (GenerationError.file path.text)
  (Document.parse contents).mapError (GenerationError.schema path.text)

theorem runOn_readTextFile (tree : FileTree) (path : Path) :
    tree.runOn (readTextFile path).run =
      ((tree.readText path).mapError (GenerationError.file path.text), tree) := by
  have read : tree.runOn (FileAccess.readText path) = (tree.readText path, tree) := rfl
  rw [readTextFile, ExceptT.run_mk, runOn_bind, read]
  cases tree.readText path <;> rfl

theorem runOn_load (input : Path) (settings : Settings) :
    tree.runOn (ResolvedMessage.load input settings).run =
      (tree.readDocument input >>= (ResolvedMessage.resolve · settings), tree) := by
  rw [readDocument, bind_assoc]
  apply runOn_bind_of_unchanged (runOn_readTextFile tree input)
  intro contents
  exact runOn_bind_of_unchanged (runOn_liftExcept _) fun document => runOn_liftExcept _

end FileTree

namespace CommandLine

open ResolvedMessage FileTree

variable {tree : FileTree} {input root : Path} {output config : Option Path}
  {package : Option String} {settings firstSettings secondSettings : Settings}

theorem runOn_during {α : Type} {tree after : FileTree}
    {work : ExceptT GenerationError (StateM FileTree) α} {outcome : Except GenerationError α}
    (run : tree.runOn work.run = (outcome, after)) (activity : String) :
    tree.runOn (during activity work).run = (outcome.mapError (Failure.mk activity), after) := by
  have adapted : (during activity work).run = Except.mapError (Failure.mk activity) <$> work.run :=
    rfl
  rw [adapted, runOn_map, run]

/-- What is printed about a schema that passes the check. -/
def validReport (message : ResolvedMessage) (output : GenerationOutput) : String :=
  String.join ((summary message output).map tick) ++ "\nSchema is valid!\n"

/-- The message in a schema file and its files, with nothing written yet. -/
def prepare (tree : FileTree) (input : Path) (settings : Settings) :
    Except GenerationError (ResolvedMessage × GenerationOutput) :=
  tree.readDocument input >>= (resolveAndGenerate · settings)

theorem prepare_eq (tree : FileTree) (input : Path) (settings : Settings) :
    prepare tree input settings = (do
      let message ← tree.readDocument input >>= (resolve · settings)
      let output ← message.generate
      return (message, output)) := by
  rw [bind_assoc]
  rfl

/-- A check leaves the files alone, and only a schema without files fails it. -/
theorem runOn_checkSchema (tree : FileTree) (input : Path) :
    tree.runOn (checkSchema input).run =
      ((prepare tree input .standard >>= fun run => .ok (validReport run.1 run.2)).mapError
        (Failure.mk ("Invalid schema " ++ input.text)), tree) := by
  apply runOn_during
  rw [prepare_eq, bind_assoc]
  apply runOn_bind_of_unchanged (runOn_load input .standard)
  intro message
  rw [bind_assoc]
  exact runOn_bind_of_unchanged (runOn_liftExcept _) fun output => rfl

theorem prepare_of_checkSchema_error {failure : Failure}
    (rejected : (tree.runOn (checkSchema input).run).1 = .error failure) :
    prepare tree input .standard = .error failure.error := by
  rw [runOn_checkSchema] at rejected
  rcases Except.mapError_eq_error_iff.mp rejected with ⟨error, failed, rfl⟩
  rcases Except.bind_eq_error_iff.mp failed with failed | ⟨run, -, impossible⟩
  · exact failed
  · cases impossible

theorem exists_prepare_of_checkSchema_ok {report : String}
    (accepted : (tree.runOn (checkSchema input).run).1 = .ok report) :
    ∃ run, prepare tree input .standard = .ok run := by
  rw [runOn_checkSchema] at accepted
  rcases Except.bind_eq_ok_iff.mp (Except.mapError_eq_ok_iff.mp accepted) with ⟨run, prepared, -⟩
  exact ⟨run, prepared⟩

theorem agree_prepare (valid : settings.validate = .ok ()) (tree : FileTree) (input : Path) :
    Except.Agree (fun first second => OutputsAgree first.1 second.1 first.2 second.2)
      (prepare tree input .standard) (prepare tree input settings) := by
  have standardValid : Settings.standard.validate = .ok () := rfl
  apply (Except.Agree.refl _).bind
  rintro document _ rfl
  exact agree_resolveAndGenerate document standardValid valid

/-- The settings in the file of a tree, or the standard ones. -/
def findSettings (tree : FileTree) : Option Path → Except Failure Settings
  | some path =>
    ((tree.readText path).mapError (GenerationError.file path.text) >>= Settings.parse).mapError
      (Failure.mk ("Failed to load config " ++ path.text))
  | none => .ok Settings.standard

/-- Settings with another package, once they are checked. -/
def checkSettings (package : Option String) (found : Settings) : Except Failure Settings := do
  let settings := { found with basePackage := package.getD found.basePackage }
  settings.validate.mapError (Failure.mk "Invalid configuration")
  return settings

theorem runOn_loadSettings (tree : FileTree) (config : Option Path) (package : Option String) :
    tree.runOn (loadSettings config package).run =
      (findSettings tree config >>= checkSettings package, tree) := by
  have checked : ∀ found : Settings, tree.runOn (ExceptT.run do
      let settings := { found with basePackage := package.getD found.basePackage }
      during "Invalid configuration" (liftExcept settings.validate)
      return settings) = (checkSettings package found, tree) := fun found =>
    runOn_bind_of_unchanged (runOn_during (runOn_liftExcept _) _) fun _ => rfl
  cases config with
  | none => exact runOn_bind_of_unchanged rfl checked
  | some path =>
      have found : tree.runOn (Settings.load path).run =
          ((tree.readText path).mapError (GenerationError.file path.text) >>= Settings.parse,
            tree) :=
        runOn_bind_of_unchanged (runOn_readTextFile tree path) fun _ => runOn_liftExcept _
      exact runOn_bind_of_unchanged (runOn_during found _) checked

theorem validate_of_loadSettings
    (loaded : (tree.runOn (loadSettings config package).run).1 = .ok settings) :
    settings.validate = .ok () := by
  rw [runOn_loadSettings] at loaded
  rcases Except.bind_eq_ok_iff.mp loaded with ⟨found, -, checked⟩
  rcases Except.bind_eq_ok_iff.mp checked with ⟨_, validated, same⟩
  cases same
  exact Except.mapError_eq_ok_iff.mp validated

/-- The last part of a run that generates: files are written and reported. -/
def persist {m : Type → Type} {Temporary : Type} [Monad m] [FileAccess m Temporary]
    (input root : Path) (files : List GeneratedFile) : ExceptT Failure m String := do
  let written ← during ("Failed to generate classes for " ++ input.text)
    (ExceptT.mk (FileAccess.writeFiles root files))
  return writtenReport root written

/-- A run that generates makes all classes before it touches a file. -/
theorem runOn_generateClasses
    (loaded : (tree.runOn (loadSettings config package).run).1 = .ok settings) :
    tree.runOn (generateClasses input output config package).run =
      match tree.readDocument input >>= (resolve · settings) with
      | .error error => (.error ⟨"Failed to load schema " ++ input.text, error⟩, tree)
      | .ok message =>
        tree.runOn (ExceptT.run do
          let written ← during ("Failed to generate classes for " ++ input.text)
            (message.write (output.getD settings.outputDirectory))
          return writtenReport (output.getD settings.outputDirectory) written) := by
  have leaves : tree.runOn (loadSettings config package).run = (.ok settings, tree) :=
    Prod.ext loaded (by rw [runOn_loadSettings])
  rw [generateClasses, runOn_exceptT_bind, leaves]
  simp only [runOn_exceptT_bind, runOn_during (runOn_load input settings)]
  cases tree.readDocument input >>= (resolve · settings) <;> rfl

theorem runOn_generateClasses_of_error {error : GenerationError}
    (loaded : (tree.runOn (loadSettings config package).run).1 = .ok settings)
    (rejected : prepare tree input settings = .error error) :
    ∃ activity, tree.runOn (generateClasses input output config package).run =
      (.error ⟨activity, error⟩, tree) := by
  rw [runOn_generateClasses loaded]
  rw [prepare_eq, Except.bind_eq_error_iff] at rejected
  rcases rejected with notResolved | ⟨message, resolved, rejected⟩
  · rw [notResolved]
    exact ⟨_, rfl⟩
  · rw [resolved]
    have failed : message.generate = .error error := by
      rcases Except.bind_eq_error_iff.mp rejected with failed | ⟨_, -, impossible⟩
      · exact failed
      · cases impossible
    simp only [runOn_exceptT_bind, runOn_during (runOn_write_of_error failed _ tree)]
    exact ⟨_, rfl⟩

theorem runOn_generateClasses_of_ok {run : ResolvedMessage × GenerationOutput}
    (loaded : (tree.runOn (loadSettings config package).run).1 = .ok settings)
    (accepted : prepare tree input settings = .ok run) (output : Option Path) :
    tree.runOn (generateClasses input output config package).run =
      tree.runOn (persist input (output.getD settings.outputDirectory) run.2.files).run := by
  rw [prepare_eq, Except.bind_eq_ok_iff] at accepted
  rcases accepted with ⟨message, resolved, accepted⟩
  rcases Except.bind_eq_ok_iff.mp accepted with ⟨files, generated, made⟩
  cases made
  rw [runOn_generateClasses loaded, resolved]
  generalize output.getD settings.outputDirectory = root
  have written := runOn_write generated root tree
  generalize ended : tree.runOn (FileAccess.writeFiles root files.files) = persisted
  rw [ended] at written
  have last : tree.runOn (ExceptT.mk (FileAccess.writeFiles root files.files)).run =
    persisted := ended
  simp only [persist, runOn_exceptT_bind, runOn_during written, runOn_during last]

/--
The verdict on a document does not depend on the settings: under settings that can be used,
runs fail with one error, or have the same classes in the same order, which agree up to
packages and paths. So a run that generates rejects a schema file exactly if the check of the
file does, then with the same error and every file as it was; a schema that passes the check
is only left to be written.
-/
theorem verdict_independent_of_settings (firstValid : firstSettings.validate = .ok ())
    (secondValid : secondSettings.validate = .ok ()) (document : Document) :
    Except.Agree
      (fun firstRun secondRun =>
        OutputsAgree firstRun.1 secondRun.1 firstRun.2 secondRun.2 ∧
        firstRun.2.message.className = secondRun.2.message.className ∧
        firstRun.2.structures.map (·.className) = secondRun.2.structures.map (·.className))
      (resolveAndGenerate document firstSettings) (resolveAndGenerate document secondSettings) ∧
    ∀ (tree : FileTree) input output config package settings,
      (tree.runOn (loadSettings config package).run).1 = .ok settings →
      (∀ failure, (tree.runOn (checkSchema input).run).1 = .error failure →
        ∃ activity, tree.runOn (generateClasses input output config package).run =
          (.error ⟨activity, failure.error⟩, tree)) ∧
      ∀ report, (tree.runOn (checkSchema input).run).1 = .ok report →
        ∃ document message generated, tree.readDocument input = .ok document ∧
          resolve document settings = .ok message ∧ message.generate = .ok generated ∧
          tree.runOn (generateClasses input output config package).run =
            tree.runOn
              (persist input (output.getD settings.outputDirectory) generated.files).run := by
  refine ⟨?_, ?_⟩
  · apply (agree_resolveAndGenerate document firstValid secondValid).mono
    intro firstRun secondRun agree
    exact ⟨agree, agree.messageName, agree.structureNames⟩
  · intro tree input output config package settings loaded
    have agree := agree_prepare (validate_of_loadSettings loaded) tree input
    refine ⟨?_, ?_⟩
    · intro failure rejected
      rw [prepare_of_checkSchema_error rejected] at agree
      exact runOn_generateClasses_of_error loaded agree.eq_error
    · intro report accepted
      rcases exists_prepare_of_checkSchema_ok accepted with ⟨_, prepared⟩
      rw [prepared] at agree
      rcases agree.exists_eq_ok with ⟨run, prepared, -⟩
      have persists := runOn_generateClasses_of_ok loaded prepared output
      rcases Except.bind_eq_ok_iff.mp prepared with ⟨document, isRead, made⟩
      rcases resolveAndGenerate_eq_ok_iff.mp made with ⟨resolved, generated⟩
      exact ⟨document, run.1, run.2, isRead, resolved, generated, persists⟩

/-- A tree with a schema file, and one whose field has a structure that is nowhere defined. -/
def schemaTree : FileTree where
  entries :=
    [(["ping.json"], .file ("\x7b \"name\": \"PingRequest\", \"type\": \"request\", " ++
        "\"apiKey\": 1, \"validVersions\": \"0\", \"fields\": [] \x7d")),
      (["gone.json"], .file ("\x7b \"name\": \"GoneRequest\", \"type\": \"request\", " ++
        "\"apiKey\": 2, \"validVersions\": \"0\", \"fields\": [\x7b \"name\": \"Item\", " ++
        "\"type\": \"Gone\", \"versions\": \"0\" \x7d] \x7d"))]
  workingDirectory := []

theorem verdict_independent_of_settings_ping :
    (∃ first second, resolveAndGenerate nestDocument .standard = .ok first ∧
      resolveAndGenerate nestDocument compactSettings = .ok second ∧
      OutputsAgree first.1 second.1 first.2 second.2 ∧
      first.2.structures.map (·.className) = second.2.structures.map (·.className)) ∧
    ∃ settings,
      (schemaTree.runOn (loadSettings none (some "org.example")).run).1 = .ok settings ∧
      (∃ report generated,
        (schemaTree.runOn (checkSchema ⟨"ping.json"⟩).run).1 = .ok report ∧
        schemaTree.runOn (generateClasses ⟨"ping.json"⟩ none none (some "org.example")).run =
          schemaTree.runOn (persist ⟨"ping.json"⟩ settings.outputDirectory generated).run) ∧
      ∃ activity failure,
        (schemaTree.runOn (checkSchema ⟨"gone.json"⟩).run).1 = .error failure ∧
        schemaTree.runOn (generateClasses ⟨"gone.json"⟩ none none (some "org.example")).run =
          (.error ⟨activity, failure.error⟩, schemaTree) := by
  have standardValid : Settings.standard.validate = .ok () := rfl
  have compactValid : compactSettings.validate = .ok () := rfl
  have verdict := verdict_independent_of_settings standardValid compactValid nestDocument
  refine ⟨?_, ?_⟩
  · have succeeds : (resolveAndGenerate nestDocument .standard).isOk = true := by
      decide +kernel
    rcases Except.exists_ok_of_isOk succeeds with ⟨first, generated⟩
    have agree := verdict.1
    rw [generated] at agree
    rcases agree.exists_eq_ok with ⟨second, otherGenerated, outputs, -, names⟩
    exact ⟨first, second, generated, otherGenerated, outputs, names⟩
  · have loads : (schemaTree.runOn (loadSettings none (some "org.example")).run).1.isOk = true := by
      decide +kernel
    have accepts : (schemaTree.runOn (checkSchema ⟨"ping.json"⟩).run).1.isOk = true := by
      decide +kernel
    have rejects : (schemaTree.runOn (checkSchema ⟨"gone.json"⟩).run).1.isOk = false := by
      decide +kernel
    rcases Except.exists_ok_of_isOk loads with ⟨settings, loaded⟩
    rcases Except.exists_ok_of_isOk accepts with ⟨report, accepted⟩
    rcases Except.exists_error_of_isOk rejects with ⟨failure, rejected⟩
    rcases (verdict.2 schemaTree ⟨"ping.json"⟩ none _ _ _ loaded).2 report accepted with
      ⟨_, _, generated, -, -, -, persists⟩
    rcases (verdict.2 schemaTree ⟨"gone.json"⟩ none _ _ _ loaded).1 failure rejected with
      ⟨activity, stops⟩
    exact ⟨settings, loaded, ⟨report, generated.files, accepted, persists⟩, activity, failure,
      rejected, stops⟩

end CommandLine

end MessageGen
