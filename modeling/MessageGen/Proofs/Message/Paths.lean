import MessageGen.Proofs.Message.Name
import MessageGen.Proofs.Message.Run
import MessageGen.Proofs.Settings.Validity
import MessageGen.Proofs.Storage.Writing

/-!
# Paths of generated files

The classes of a run have the names of the kept definitions and of the message. The path
of a class is the directory of the family with a file that is named for the class. Names
of messages and of common structures are not checked, so such a name may hold slashes
and lead elsewhere. The names without slashes are the plain ones, and for these the
path enters the directories of the package, one for each segment, and then the file.
-/

namespace MessageGen

namespace Document

/-- The names of the classes of a document, the message last. -/
def classNames (document : Document) : List String :=
  document.keptStructures.map (·.name) ++ [document.name]

/-- Whether the names that are not checked can be names of files. -/
def HasPlainNames (document : Document) : Prop :=
  ∀ name ∈ document.name :: document.commonStructures.map (·.name),
    name ≠ "" ∧ '/' ∉ name.toList

instance (document : Document) : Decidable document.HasPlainNames :=
  inferInstanceAs (Decidable (∀ name ∈ _, _))

variable {document : Document}

theorem nodup_classNames_iff : document.classNames.Nodup ↔
    document.name ∉ document.keptStructures.map (·.name) := by
  rw [classNames, List.nodup_append]
  simp [document.nodup_keptStructures]

/-- A class has the name of a structure type, or one that is not checked. -/
theorem isStructureName_or_of_mem_classNames {name : String}
    (name_mem : name ∈ document.classNames) : FieldType.isStructureName name.toList = true ∨
      name ∈ document.name :: document.commonStructures.map (·.name) := by
  rcases List.mem_append.mp name_mem with kept | isMessage
  · rcases List.mem_map.mp kept with ⟨definition, definition_mem, rfl⟩
    rcases document.name_of_mem_definitions definition
      (document.keptStructures_subset_definitions definition_mem) with named | isCommon
    · exact .inl named
    · rcases isCommon with ⟨common, common_mem, sameName⟩
      rw [← sameName]
      exact .inr (List.mem_cons_of_mem _ (List.mem_map_of_mem common_mem))
  · cases List.mem_singleton.mp isMessage
    exact .inr List.mem_cons_self

theorem plain_of_isStructureName {name : String}
    (named : FieldType.isStructureName name.toList = true) : name ≠ "" ∧ '/' ∉ name.toList := by
  rw [FieldType.isStructureName, Bool.and_eq_true] at named
  refine ⟨?_, not_mem_of_isIdentifier named.1 (by decide)⟩
  intro isEmpty
  simp [isEmpty, isIdentifier] at named

theorem plain_of_mem_classNames (plain : document.HasPlainNames) {name : String}
    (name_mem : name ∈ document.classNames) : name ≠ "" ∧ '/' ∉ name.toList := by
  rcases isStructureName_or_of_mem_classNames name_mem with named | unchecked
  · exact plain_of_isStructureName named
  · exact plain name unchecked

end Document

namespace ResolvedMessage

variable {document : Document} {settings : Settings} {message : ResolvedMessage}
  {output : GenerationOutput}

theorem settings_of_resolve (resolved : resolve document settings = .ok message) :
    message.settings = settings ∧ settings.validate = .ok () := by
  rcases resolve_eq_ok_iff.mp resolved with ⟨validated, _, _, _, _, -, -, -, rfl⟩
  exact ⟨rfl, validated⟩

theorem name_of_resolve (resolved : resolve document settings = .ok message) :
    MessageName.resolve document.name = .ok message.name := by
  rcases resolve_eq_ok_iff.mp resolved with ⟨-, kind, name, _, _, hasKind, -, -, rfl⟩
  exact (MessageKind.resolve_eq_ok_iff.mp hasKind).1

theorem map_className_files_of_generate (generated : message.generate = .ok output) :
    output.files.map (·.className) = message.document.classNames := by
  rw [GenerationOutput.files, List.map_append, map_className_of_generate generated,
    Document.classNames]
  rcases generate_eq_ok_iff.mp generated with ⟨_, _, _, -, -, -, -, rfl⟩
  rfl

theorem map_path_files_of_generate (generated : message.generate = .ok output) :
    output.files.map (·.path) = message.document.classNames.map message.context.filePath := by
  rw [GenerationOutput.files, List.map_append, Document.classNames, List.map_append, List.map_map,
    Except.map_eq_of_mapM CommonStructure.path_of_classFile
      (mapM_classFile_of_generate generated)]
  rcases generate_eq_ok_iff.mp generated with ⟨_, _, _, -, -, -, -, rfl⟩
  rfl

/-- The names of the directories of a package, the outermost first. -/
def directoryNames (message : ResolvedMessage) : List String :=
  (Settings.packageSegments message.package).filter (· ≠ "")

def fileName (message : ResolvedMessage) (className : String) : String :=
  className ++ "." ++ message.settings.fileExtension

theorem fileName_injective (message : ResolvedMessage) :
    Function.Injective message.fileName := by
  intro first second same
  simp only [fileName, ← String.toList_inj, String.toList_append, List.append_assoc] at same
  exact String.toList_inj.mp (List.append_cancel_right same)

/-- A family name has the slashes and points of the message name, and no others. -/
theorem mem_family_of_resolve (resolved : resolve document settings = .ok message)
    {character : Char} (notLower : character.isLower = false)
    (character_mem : character ∈ (packageSegment message.name.family).toList) :
    character ∈ document.name.toList := by
  rw [packageSegment, String.toList_ofList] at character_mem
  exact (MessageName.family_prefix_of_resolve (name_of_resolve resolved)).2.subset
    (Text.mem_of_mem_lowerAscii notLower character_mem)

theorem route_familyDirectory (resolved : resolve document settings = .ok message)
    (slashFree : '/' ∉ document.name.toList) :
    message.familyDirectory.route = (false, message.directoryNames.map .entry) := by
  have plain : ∀ segment ∈ Settings.packageSegments message.package,
      '/' ∉ segment.toList ∧ '.' ∉ segment.toList := by
    intro segment segment_mem
    refine ⟨?_, (Settings.mem_packageSegments segment_mem).1⟩
    rw [package, Settings.packageSegments_append_point] at segment_mem
    rcases List.mem_append.mp segment_mem with ofBase | ofFamily
    · rcases settings_of_resolve resolved with ⟨rfl, validated⟩
      have valid := (Settings.checkPackage_eq_ok_iff.mp
        (Settings.validate_eq_ok_iff.mp validated).1).2 segment ofBase
      exact not_mem_of_isIdentifier valid (by decide)
    · intro slash_mem
      exact slashFree (mem_family_of_resolve resolved (by decide)
        ((Settings.mem_packageSegments ofFamily).2 '/' slash_mem))
  exact Path.route_foldl_push ⟨""⟩ plain

/-- If there are no points in the name of a message, its family has one segment of the package. -/
theorem packageSegments_package (resolved : resolve document settings = .ok message)
    (pointFree : '.' ∉ document.name.toList) :
    Settings.packageSegments message.package =
      Settings.packageSegments settings.basePackage ++ [packageSegment message.name.family] := by
  rcases settings_of_resolve resolved with ⟨rfl, -⟩
  have pointFreeFamily : '.' ∉ (packageSegment message.name.family).toList := fun point_mem =>
    pointFree (mem_family_of_resolve resolved (by decide) point_mem)
  have oneSegment : Settings.packageSegments (packageSegment message.name.family) =
      [packageSegment message.name.family] := by
    rw [Settings.packageSegments, List.splitOn_eq_singleton pointFreeFamily, List.map_singleton,
      String.ofList_toList]
  rw [package, Settings.packageSegments_append_point, oneSegment]

/-- If there are no points in the name of a message, its family has one directory. -/
theorem directoryNames_of_point_free (resolved : resolve document settings = .ok message)
    (pointFree : '.' ∉ document.name.toList) :
    message.directoryNames = (Settings.packageSegments settings.basePackage).filter (· ≠ "") ++
      [packageSegment message.name.family] := by
  have nonempty : packageSegment message.name.family ≠ "" := by
    have familyNonempty := (MessageName.family_prefix_of_resolve (name_of_resolve resolved)).1
    simpa [packageSegment, Text.lowerAscii] using familyNonempty
  rw [directoryNames, packageSegments_package resolved pointFree, List.filter_append]
  simp [nonempty]

/-- The name of a file ends in the extension, so that it stands for a file. -/
theorem file_isEntry (resolved : resolve document settings = .ok message) {className : String}
    (slashFree : '/' ∉ className.toList) :
    '/' ∉ (message.fileName className).toList ∧
      Path.Part.ofPiece (message.fileName className) = .entry (message.fileName className) := by
  rcases settings_of_resolve resolved with ⟨rfl, validated⟩
  rcases Settings.checkExtension_eq_ok_iff.mp (Settings.validate_eq_ok_iff.mp validated).2.2 with
    ⟨nonempty, characters⟩
  constructor
  · simp only [fileName, String.toList_append, List.mem_append]
    rintro ((ofClass | ofPoint) | ofExtension)
    · exact slashFree ofClass
    · exact absurd ofPoint (by decide)
    · exact characters '/' ofExtension (by decide)
  · rcases List.eq_nil_or_concat' message.settings.fileExtension.toList with
      isEmpty | ⟨front, last, ends⟩
    · exact absurd (String.toList_eq_nil_iff.mp isEmpty) nonempty
    · have lastCharacter : (message.fileName className).toList.getLast? = some last := by
        rw [fileName, String.toList_append, ends, ← List.append_assoc, List.getLast?_concat]
      apply Path.Part.ofPiece_eq_entry_of_getLast? lastCharacter
      rintro rfl
      exact characters '.' (by simp [ends]) (by decide)

/-- No file of a run is named as a temporary file, since its name has a point. -/
theorem not_isTemporary_filePath (resolved : resolve document settings = .ok message)
    (tree : FileTree) (root : Path) (className : String) :
    ¬FileTree.IsTemporary
      (tree.destination (root.join (message.context.filePath className))) := by
  rcases settings_of_resolve resolved with ⟨rfl, validated⟩
  rcases Settings.checkExtension_eq_ok_iff.mp (Settings.validate_eq_ok_iff.mp validated).2.2 with
    ⟨nonempty, characters⟩
  have isNonempty : message.settings.fileExtension.toList ≠ [] := by simpa using nonempty
  rcases Path.exists_entry_suffix_steps className.toList isNonempty
      (fun slash_mem => characters '/' slash_mem (by decide))
      (fun point_mem => characters '.' point_mem (by decide)) with ⟨name, isLast, hasPoint⟩
  have isFileName : className.toList ++ '.' :: message.settings.fileExtension.toList =
      (message.fileName className).toList := by
    simp [fileName]
  rw [isFileName] at isLast
  have isLastOfJoin : [Path.Part.entry name] <:+
      (root.join (message.context.filePath className)).route.2 :=
    isLast.trans ((Path.steps_suffix_route_push _ _).trans (Path.steps_suffix_route_push _ _))
  rcases tree.exists_destination_eq_append isLastOfJoin with ⟨directory, isDestination⟩
  rintro ⟨other, number, same⟩
  rw [isDestination] at same
  have sameName := List.singleton_inj.mp (List.append_inj_right' same rfl)
  exact FileTree.point_not_mem_temporaryName number (sameName ▸ hasPoint)

/-- The path of a class with a plain name leads to a file in the directory of the family. -/
theorem route_filePath (resolved : resolve document settings = .ok message)
    (slashFree : '/' ∉ document.name.toList) {className : String}
    (classSlashFree : '/' ∉ className.toList) :
    (message.context.filePath className).route =
      (false, (message.directoryNames ++ [message.fileName className]).map .entry) := by
  rcases file_isEntry resolved classSlashFree with ⟨slashFreeFile, isEntry⟩
  have pushed := Path.route_push_of_slash_free message.familyDirectory slashFreeFile
  rw [isEntry, route_familyDirectory resolved slashFree] at pushed
  rw [ClassContext.filePath]
  refine Eq.trans pushed ?_
  simp

/-- A class with a plain name has its file in the directory of the family. -/
theorem destination_filePath (resolved : resolve document settings = .ok message)
    (plain : document.HasPlainNames) (tree : FileTree) (root : Path) {className : String}
    (name_mem : className ∈ document.classNames) :
    tree.destination (root.join (message.context.filePath className)) =
      tree.destination root ++ message.directoryNames ++ [message.fileName className] := by
  have slashFree := (plain document.name List.mem_cons_self).2
  have classSlashFree := (Document.plain_of_mem_classNames plain name_mem).2
  have leads := tree.destination_join root (route_filePath resolved slashFree classSlashFree)
  rw [leads, List.append_assoc]

end ResolvedMessage

end MessageGen
