import MessageGen.Message.Files
import MessageGen.Proofs.Message.Paths

/-!
# Files that a run leaves behind

A run writes the files of a message below an output directory. With plain names the
files of different classes have different locations there, none of which has the name
of a temporary file, so a run that succeeds leaves every file with its text. A later run
leaves them alone, unless it shares both the directory and the name of a class.
-/

namespace MessageGen

/-- The files of a run with their paths below an output directory. -/
def GenerationOutput.filesBelow (output : GenerationOutput) (root : Path) :
    List (Path × String) :=
  output.files.map fun file => (root.join file.path, file.contents)

namespace ResolvedMessage

variable {document firstDocument secondDocument : Document} {settings : Settings}
  {message first second : ResolvedMessage} {output firstOutput secondOutput : GenerationOutput}
  {root : Path} {before middle after : FileTree} {written firstWritten secondWritten : List Path}

theorem forall_path_files_iff (resolved : resolve document settings = .ok message)
    (generated : message.generate = .ok output) (property : Path → Prop) :
    (∀ file ∈ output.files, property file.path) ↔
      ∀ className ∈ document.classNames, property (message.context.filePath className) := by
  have paths := map_path_files_of_generate generated
  rw [document_of_resolve resolved] at paths
  have all := congrArg (fun paths => ∀ path ∈ paths, property path) paths
  simpa only [List.forall_mem_map, eq_iff_iff] using all

theorem exists_className_of_mem_files (resolved : resolve document settings = .ok message)
    (generated : message.generate = .ok output) :
    ∀ file ∈ output.files, ∃ className ∈ document.classNames,
      message.context.filePath className = file.path :=
  (forall_path_files_iff resolved generated fun path =>
    ∃ className ∈ document.classNames, message.context.filePath className = path).mpr
      fun className className_mem => ⟨className, className_mem, rfl⟩

theorem runOn_write (generated : message.generate = .ok output) (root : Path) (tree : FileTree) :
    tree.runOn (message.write root).run =
      tree.runOn (FileAccess.writeFiles root output.files) := by
  simp [write, liftExcept, generated]

theorem exists_output_of_write
    (run : before.runOn (message.write root).run = (.ok written, after)) :
    ∃ output, message.generate = .ok output := by
  cases generated : message.generate with
  | error error => simp [write, liftExcept, generated] at run
  | ok output => exact ⟨output, rfl⟩

theorem writes_of_write (resolved : resolve document settings = .ok message)
    (generated : message.generate = .ok output)
    (run : before.runOn (message.write root).run = (.ok written, after)) :
    written = output.files.map (fun file => root.join file.path) ∧
      before.Writes after (output.filesBelow root) := by
  rw [runOn_write generated] at run
  apply FileTree.writes_of_writeFiles run
  intro file file_mem
  rcases exists_className_of_mem_files resolved generated file file_mem with
    ⟨className, -, isPath⟩
  rw [← isPath]
  exact not_isTemporary_filePath resolved before root className

/-- Files of runs with the same settings are named alike if their directories and classes are. -/
theorem directoryNames_append_fileName_eq_iff
    (resolvedFirst : resolve firstDocument settings = .ok first)
    (resolvedSecond : resolve secondDocument settings = .ok second)
    {firstName secondName : String} :
    first.directoryNames ++ [first.fileName firstName] =
        second.directoryNames ++ [second.fileName secondName] ↔
      first.directoryNames = second.directoryNames ∧ firstName = secondName := by
  have sameFile : first.fileName = second.fileName := by
    funext className
    rw [fileName, fileName, (settings_of_resolve resolvedFirst).1,
      (settings_of_resolve resolvedSecond).1]
  rw [sameFile]
  constructor
  · intro same
    rcases List.append_inj' same rfl with ⟨sameDirectory, sameName⟩
    exact ⟨sameDirectory, second.fileName_injective (List.singleton_inj.mp sameName)⟩
  · rintro ⟨sameDirectory, rfl⟩
    rw [sameDirectory]

theorem nodup_destination_filesBelow (resolved : resolve document settings = .ok message)
    (generated : message.generate = .ok output) (plain : document.HasPlainNames)
    (distinct : document.classNames.Nodup) (tree : FileTree) (root : Path) :
    ((output.filesBelow root).map fun file => tree.destination file.1).Nodup := by
  have locations : ((output.filesBelow root).map fun file => tree.destination file.1) =
      document.classNames.map fun name =>
        tree.destination (root.join (message.context.filePath name)) := by
    have paths := congrArg (List.map fun path => tree.destination (root.join path))
      (map_path_files_of_generate generated)
    rw [document_of_resolve resolved] at paths
    simp only [List.map_map, Function.comp_def] at paths
    simp only [GenerationOutput.filesBelow, List.map_map, Function.comp_def, paths]
  rw [locations]
  apply (List.nodup_map_iff_inj_on distinct).mpr
  intro firstName firstName_mem secondName secondName_mem same
  rw [destination_filePath resolved plain tree root firstName_mem,
    destination_filePath resolved plain tree root secondName_mem] at same
  exact message.fileName_injective (List.singleton_inj.mp (List.append_cancel_left same))

theorem readText_of_write (resolved : resolve document settings = .ok message)
    (generated : message.generate = .ok output) (plain : document.HasPlainNames)
    (distinct : document.classNames.Nodup)
    (run : before.runOn (message.write root).run = (.ok written, after))
    {file : GeneratedFile} (file_mem : file ∈ output.files) :
    after.readText (root.join file.path) = .ok file.contents := by
  have below_mem : (root.join file.path, file.contents) ∈ output.filesBelow root :=
    List.mem_map.mpr ⟨file, file_mem, rfl⟩
  have distinctLocations :=
    nodup_destination_filesBelow resolved generated plain distinct before root
  have isLast := FileTree.lastText?_of_nodup distinctLocations below_mem
  have writes := (writes_of_write resolved generated run).2
  have isRead := writes.readText below_mem isLast
  exact isRead

/-- Files of one run can still be read after another run that has no file in common with it. -/
theorem readText_of_write_of_write (resolvedFirst : resolve firstDocument settings = .ok first)
    (generatedFirst : first.generate = .ok firstOutput)
    (plainFirst : firstDocument.HasPlainNames)
    (resolvedSecond : resolve secondDocument settings = .ok second)
    (generatedSecond : second.generate = .ok secondOutput)
    (plainSecond : secondDocument.HasPlainNames)
    (apart : first.directoryNames ≠ second.directoryNames ∨
      ∀ name ∈ firstDocument.classNames, name ∉ secondDocument.classNames)
    {file : GeneratedFile} (file_mem : file ∈ firstOutput.files)
    (isRead : before.readText (root.join file.path) = .ok file.contents)
    (run : before.runOn (second.write root).run = (.ok written, after)) :
    after.readText (root.join file.path) = .ok file.contents := by
  have writes := (writes_of_write resolvedSecond generatedSecond run).2
  apply writes.readText_of_apart isRead
  intro other other_mem same
  rcases List.mem_map.mp other_mem with ⟨otherFile, otherFile_mem, rfl⟩
  rcases exists_className_of_mem_files resolvedFirst generatedFirst file file_mem with
    ⟨firstName, first_mem, isFirst⟩
  rcases exists_className_of_mem_files resolvedSecond generatedSecond otherFile otherFile_mem with
    ⟨secondName, second_mem, isSecond⟩
  rw [← isFirst, ← isSecond, destination_filePath resolvedFirst plainFirst _ root first_mem,
    destination_filePath resolvedSecond plainSecond _ root second_mem, List.append_assoc,
    List.append_assoc] at same
  rcases (directoryNames_append_fileName_eq_iff resolvedSecond resolvedFirst).mp
    (List.append_cancel_left same) with ⟨sameDirectory, rfl⟩
  rcases apart with otherDirectory | otherNames
  · exact otherDirectory sameDirectory.symm
  · exact otherNames _ first_mem second_mem

/-- Two runs in turn that have no file in common leave the files of both. -/
theorem readText_of_both_writes (resolvedFirst : resolve firstDocument settings = .ok first)
    (generatedFirst : first.generate = .ok firstOutput)
    (plainFirst : firstDocument.HasPlainNames) (distinctFirst : firstDocument.classNames.Nodup)
    (resolvedSecond : resolve secondDocument settings = .ok second)
    (generatedSecond : second.generate = .ok secondOutput)
    (plainSecond : secondDocument.HasPlainNames)
    (distinctSecond : secondDocument.classNames.Nodup)
    (apart : first.directoryNames ≠ second.directoryNames ∨
      ∀ name ∈ firstDocument.classNames, name ∉ secondDocument.classNames)
    (firstRun : before.runOn (first.write root).run = (.ok firstWritten, middle))
    (secondRun : middle.runOn (second.write root).run = (.ok secondWritten, after)) :
    ∀ file ∈ firstOutput.files ++ secondOutput.files,
      after.readText (root.join file.path) = .ok file.contents := by
  intro file file_mem
  rcases List.mem_append.mp file_mem with ofFirst | ofSecond
  · have isRead := readText_of_write resolvedFirst generatedFirst plainFirst distinctFirst firstRun
      ofFirst
    exact readText_of_write_of_write resolvedFirst generatedFirst plainFirst resolvedSecond
      generatedSecond plainSecond apart ofFirst isRead secondRun
  · exact readText_of_write resolvedSecond generatedSecond plainSecond distinctSecond secondRun
      ofSecond

end ResolvedMessage

end MessageGen
