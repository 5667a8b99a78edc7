import MessageGen.Proofs.Message.Collisions
import MessageGen.Proofs.Storage.Confinement
import MessageGen.Proofs.Structure.Order

/-!
# Where the files of a run lie

The file of a class belongs into the directory of its package, and the output directory
is the only place in which a run should leave anything. Both hold if the names that are
not checked, those of the message and of common structures, have no slashes. A name with
slashes leads its file elsewhere, also out of the output directory.
-/

namespace MessageGen

namespace Document

/-- Whether the names that are not checked stand for one part of a path. -/
def HasSlashFreeNames (document : Document) : Prop :=
  ∀ name ∈ document.name :: document.commonStructures.map (·.name), '/' ∉ name.toList

instance (document : Document) : Decidable document.HasSlashFreeNames :=
  inferInstanceAs (Decidable (∀ name ∈ _, _))

variable {document : Document}

theorem isKept_of_mem_commonStructures {common : CommonStructure}
    (common_mem : common ∈ document.commonStructures) :
    common.name ∈ document.keptStructures.map (·.name) := by
  rw [← CommonStructure.isKept_iff_mem, keptStructures]
  apply CommonStructure.isKept_keepFields
  generalize document.commonStructures = commons at common_mem
  generalize ([] : List CommonStructure) = kept
  induction commons generalizing kept with
  | nil => cases common_mem
  | cons first commons ih =>
      rw [CommonStructure.keepCommons]
      rcases List.mem_cons.mp common_mem with rfl | common_mem
      · exact CommonStructure.isKept_keepCommons commons _ _
          (isKept_keepAfter _ kept common)
      · exact ih common_mem _

theorem slash_free_classNames_iff :
    (∀ name ∈ document.classNames, '/' ∉ name.toList) ↔ document.HasSlashFreeNames := by
  constructor
  · intro slashFree name name_mem
    apply slashFree
    rcases List.mem_cons.mp name_mem with rfl | name_mem
    · exact List.mem_append_right _ List.mem_cons_self
    · rcases List.mem_map.mp name_mem with ⟨common, common_mem, rfl⟩
      exact List.mem_append_left _ (isKept_of_mem_commonStructures common_mem)
  · intro slashFree name name_mem
    rcases isStructureName_or_of_mem_classNames name_mem with named | unchecked
    · exact (plain_of_isStructureName named).2
    · exact slashFree name unchecked

end Document

namespace ResolvedMessage

variable {document : Document} {settings : Settings} {message : ResolvedMessage}
  {output : GenerationOutput}

/-- A file lies in the directory of the package, below the output directory. -/
def Places (message : ResolvedMessage) (file : GeneratedFile) : Prop :=
  file.path.route = (false,
    (Settings.packageSegments message.package ++ [message.fileName file.className]).map .entry)

theorem path_of_mem_files (generated : message.generate = .ok output) :
    ∀ file ∈ output.files, file.path = message.context.filePath file.className := by
  have paths := map_path_files_of_generate generated
  rw [← map_className_files_of_generate generated, List.map_map] at paths
  intro file file_mem
  exact List.map_inj_left.mp paths file file_mem

theorem slash_free_className_of_mem_files (resolved : resolve document settings = .ok message)
    (generated : message.generate = .ok output) (slashFree : document.HasSlashFreeNames) :
    ∀ file ∈ output.files, '/' ∉ file.className.toList := by
  intro file file_mem
  apply Document.slash_free_classNames_iff.mpr slashFree
  rw [← document_of_resolve resolved, ← map_className_files_of_generate generated]
  exact List.mem_map_of_mem file_mem

/-- A file whose names have no slashes lies below the output directory. -/
theorem route_of_mem_files (resolved : resolve document settings = .ok message)
    (generated : message.generate = .ok output) (slashFree : document.HasSlashFreeNames) :
    ∀ file ∈ output.files, file.path.route =
      (false, (message.directoryNames ++ [message.fileName file.className]).map .entry) := by
  intro file file_mem
  rw [path_of_mem_files generated file file_mem]
  exact route_filePath resolved (slashFree document.name List.mem_cons_self)
    (slash_free_className_of_mem_files resolved generated slashFree file file_mem)

/-- A file that lies in the directory of its package has no slash in its name. -/
theorem slash_free_of_places {file : GeneratedFile} (places : message.Places file) :
    '/' ∉ file.className.toList ∧ "" ∉ Settings.packageSegments message.package := by
  have plain : ∀ name ∈ Settings.packageSegments message.package ++
      [message.fileName file.className], name ≠ "" ∧ '/' ∉ name.toList := by
    intro name name_mem
    have entered : Path.Part.entry name ∈ file.path.route.2 := by
      rw [places]
      exact List.mem_map_of_mem name_mem
    exact Path.plain_of_entry_mem_route entered
  constructor
  · intro slash_mem
    apply (plain _ (List.mem_append_right _ List.mem_cons_self)).2
    simp [fileName, slash_mem]
  · intro empty_mem
    exact (plain "" (List.mem_append_left _ empty_mem)).1 rfl

theorem places_files_iff (resolved : resolve document settings = .ok message)
    (generated : message.generate = .ok output) :
    (∀ file ∈ output.files, message.Places file) ↔
      document.HasSlashFreeNames ∧ "" ∉ Settings.packageSegments message.package := by
  constructor
  · intro places
    constructor
    · apply Document.slash_free_classNames_iff.mp
      rw [← document_of_resolve resolved, ← map_className_files_of_generate generated]
      intro name name_mem
      rcases List.mem_map.mp name_mem with ⟨file, file_mem, rfl⟩
      exact (slash_free_of_places (places file file_mem)).1
    · have message_mem : output.message ∈ output.files := by
        simp [GenerationOutput.files]
      exact (slash_free_of_places (places output.message message_mem)).2
  · rintro ⟨slashFree, noEmpty⟩ file file_mem
    have noneDropped : message.directoryNames = Settings.packageSegments message.package := by
      apply List.filter_eq_self.mpr
      intro segment segment_mem
      simp only [decide_eq_true_eq]
      rintro rfl
      exact noEmpty segment_mem
    rw [Places, route_of_mem_files resolved generated slashFree file file_mem, noneDropped]

theorem changesBelow_write (resolved : resolve document settings = .ok message)
    (slashFree : document.HasSlashFreeNames) (root : Path) (before : FileTree) :
    FileTree.ChangesBelow root before (before.runOn (message.write root).run).2 := by
  cases generated : message.generate with
  | error error =>
      have unchanged : (before.runOn (message.write root).run).2 = before := by
        simp [write, liftExcept, generated]
      rw [unchanged]
      exact .refl before
  | ok output =>
      rw [runOn_write generated]
      apply FileTree.changesBelow_writeFiles
      intro file file_mem
      have route := route_of_mem_files resolved generated slashFree file file_mem
      refine ⟨message.directoryNames, message.fileName file.className, ?_⟩
      rw [Path.route_join root (by rw [route]), route]

/--
All files of a run lie in the directory of their package exactly if the message and the
common structures have no slashes in their names and no segment of the package is empty.
Without slashes a run changes nothing outside the output directory, whether it succeeds
or not, and every file it writes lies below that directory.
-/
theorem files_placed_iff (resolved : resolve document settings = .ok message)
    (generated : message.generate = .ok output) :
    ((∀ file ∈ output.files, message.Places file) ↔
      document.HasSlashFreeNames ∧ "" ∉ Settings.packageSegments message.package) ∧
    (document.HasSlashFreeNames → ∀ (root : Path) (before : FileTree),
      FileTree.ChangesBelow root before (before.runOn (message.write root).run).2 ∧
      ∀ file ∈ output.files, before.destination (root.join file.path) =
        before.destination root ++ message.directoryNames ++
          [message.fileName file.className]) := by
  refine ⟨places_files_iff resolved generated, ?_⟩
  intro slashFree root before
  refine ⟨changesBelow_write resolved slashFree root before, ?_⟩
  intro file file_mem
  rw [before.destination_join root (route_of_mem_files resolved generated slashFree file file_mem),
    List.append_assoc]

theorem files_placed_topic : ∃ message output,
    resolve topicRequest .standard = .ok message ∧ message.generate = .ok output ∧
    (∀ file ∈ output.files, message.Places file) ∧
    ∀ (root : Path) (before : FileTree),
      FileTree.ChangesBelow root before (before.runOn (message.write root).run).2 ∧
      ∀ file ∈ output.files, before.destination (root.join file.path) =
        before.destination root ++ message.directoryNames ++
          [message.fileName file.className] := by
  have slashFree : topicRequest.HasSlashFreeNames := by decide
  have succeeds : (resolve topicRequest .standard >>= fun message =>
      message.generate.map fun output => (message, output)).toOption.map (fun run =>
        decide ("" ∈ Settings.packageSegments run.1.package)) = some false := by
    decide +kernel
  rcases Except.exists_ok_of_map_toOption succeeds with ⟨⟨message, output⟩, made, noEmpty⟩
  rcases Except.bind_eq_ok_iff.mp made with ⟨_, resolved, outputMade⟩
  rcases Except.map_eq_ok_iff.mp outputMade with ⟨_, generated, same⟩
  cases same
  have placed := files_placed_iff resolved generated
  exact ⟨message, output, resolved, generated,
    placed.1.mpr ⟨slashFree, of_decide_eq_false noEmpty⟩, placed.2 slashFree⟩

/-- A common structure whose name leads out of the output directory. -/
def strayRequest : Document :=
  { topicRequest with commonStructures := [⟨"../../../../../Stray", allVersions, []⟩], fields := [] }

/-- A tree in which the directory of the fetch family is there. -/
def fetchTree : FileTree where
  entries := [(["out"], .directory), (["out", "org"], .directory),
    (["out", "org", "wiregen"], .directory), (["out", "org", "wiregen", "protocol"], .directory),
    (["out", "org", "wiregen", "protocol", "fetch"], .directory)]
  workingDirectory := []

theorem exists_message_strayRequest : ∃ message, resolve strayRequest .standard = .ok message ∧
    (FileTree.entry? (fetchTree.runOn (message.write ⟨"out"⟩).run).2 ["Stray.java"] matches
      some (.file _)) = true := by
  apply Except.exists_ok_of_map_toOption
  decide +kernel

/-- The file of the structure lies beside the output directory and not in it. -/
theorem files_not_placed_stray :
    (¬∀ document settings message output, resolve document settings = .ok message →
      message.generate = .ok output → ∀ file ∈ output.files, message.Places file) ∧
    ¬∀ document settings message root before, resolve document settings = .ok message →
      FileTree.ChangesBelow root before (before.runOn (message.write root).run).2 := by
  constructor
  · intro placed
    have succeeds : (resolve strayRequest .standard >>= generate).isOk = true := by
      decide +kernel
    rcases Except.exists_ok_of_isOk succeeds with ⟨output, run⟩
    rcases Except.bind_eq_ok_iff.mp run with ⟨message, resolved, generated⟩
    have places := placed strayRequest .standard message output resolved generated
    exact absurd ((places_files_iff resolved generated).mp places).1 (by decide)
  · intro confined
    rcases exists_message_strayRequest with ⟨message, resolved, isFile⟩
    have changes := confined strayRequest .standard message ⟨"out"⟩ fetchTree resolved
    generalize (fetchTree.runOn (message.write ⟨"out"⟩).run).2 = after at isFile changes
    rcases changes.entry ["Stray.java"] with below | same | ⟨-, -, isDirectory⟩
    · exact absurd below (by decide)
    · rw [same] at isFile
      cases isFile
    · rw [isDirectory] at isFile
      cases isFile

end ResolvedMessage

end MessageGen
