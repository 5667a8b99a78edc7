import MessageGen.Proofs.Class.Image
import MessageGen.Proofs.Message.References
import MessageGen.Proofs.Settings.Validity

/-!
# Classes behind simple names

The classes of a run lie in one package and use other classes by their simple names. Such
a name stands for an import that ends in it, and for a class of the package that has it.
Nothing keeps the names of structures and messages apart from those of imports. Which
simple names are imported depends on the kind of the message and on the types of the
fields. If no class of the run has one of them, each name that a class uses stands for
the one class that is meant.
-/

namespace MessageGen

/-- The part of the full name of a class behind the last point. -/
def simpleName (path : String) : String :=
  (Settings.packageSegments path).getLastD ""

/-- The fields that the classes of a document have. -/
def Document.keptFields (document : Document) : List Field :=
  document.fields ++ document.keptStructures.flatMap (·.fields)

namespace ResolvedMessage

/-- A run over a message makes a class, which has the given fields. -/
inductive Makes (message : ResolvedMessage) : ClassDescription → List ResolvedField → Prop where
  | ofMessage {fields : List ResolvedField}
      (resolved : (message.document.fields.mapM fun field =>
        ResolvedField.resolve message.context field.toFieldAttributes) = .ok fields) :
      Makes message (message.messageClass message.context fields) fields
  | ofStructure {definition : CommonStructure} {versions : VersionSet}
      {fields : List ResolvedField} (isKept : definition ∈ message.document.keptStructures)
      (hasVersions : ResolvedField.resolveWithin message.context definition.versions
        message.context.validVersions = .ok versions)
      (resolved : (definition.fields.mapM fun field =>
        ResolvedField.resolve message.context field.toFieldAttributes) = .ok fields) :
      Makes message (structureClass message.context definition.name versions fields) fields

/-- Whether no class of a run has the simple name of something that a class of it imports. -/
def ShadowsNoImport (message : ResolvedMessage) : Prop :=
  ∀ description fields other otherFields, message.Makes description fields →
    message.Makes other otherFields → ∀ path ∈ description.imports,
      simpleName path ≠ simpleName other.name

/-- Whether some class of a document imports a class with the given simple name. -/
def ImportsName (message : ResolvedMessage) (name : String) : Prop :=
  name = message.kind.baseClass ∨ name = "List" ∨
    (message.document.keptStructures ≠ [] ∧ name = structureBaseClass) ∨
    ∃ field ∈ message.document.keptFields, name = fieldClass ∨
      ∃ type, FieldType.parse field.name field.type = .ok type ∧
        (type.arrayDepth ≠ 0 ∧ name = "ArrayList" ∨
          type.innermost = .primitive .uuid ∧ name = "UUID")

/-- A class uses a simple name for the class with the given full name. -/
inductive Uses (message : ResolvedMessage) (description : ClassDescription)
    (fields : List ResolvedField) : String → String → Prop where
  | base : Uses message description fields description.baseClass
      (message.context.runtimeClass description.baseClass)
  | flexibleVersions (isMessage : description.baseClass = message.kind.baseClass) :
      Uses message description fields "List" "java.util.List"
  | registration {field : ResolvedField} (field_mem : field ∈ fields) :
      Uses message description fields fieldClass (message.context.runtimeClass fieldClass)
  | list {field : ResolvedField} (field_mem : field ∈ fields)
      (isArray : field.type.arrayDepth ≠ 0) :
      Uses message description fields "List" "java.util.List"
  | arrayList {field : ResolvedField} (field_mem : field ∈ fields)
      (isArray : field.type.arrayDepth ≠ 0) :
      Uses message description fields "ArrayList" "java.util.ArrayList"
  | uuid {field : ResolvedField} (field_mem : field ∈ fields)
      (isUuid : field.type.innermost = .primitive .uuid) :
      Uses message description fields "UUID" "java.util.UUID"
  | struct {field : ResolvedField} {name : String} (field_mem : field ∈ fields)
      (names : field.type.structureName? = some name) :
      Uses message description fields name (message.package ++ "." ++ name)

/-- A simple name can stand for a class in a class: for an import, or for one of the package. -/
def CanMean (message : ResolvedMessage) (description : ClassDescription) (name path : String) :
    Prop :=
  (path ∈ description.imports ∧ simpleName path = name) ∨
    ∃ other otherFields, message.Makes other otherFields ∧ other.name = name ∧
      path = message.package ++ "." ++ name

end ResolvedMessage

section SimpleNames

variable {context : ClassContext} {path name : String}

theorem packageSegments_ne_nil (path : String) : Settings.packageSegments path ≠ [] := by
  simp [Settings.packageSegments]

theorem simpleName_append_point (front back : String) :
    simpleName (front ++ "." ++ back) = simpleName back := by
  rw [simpleName, Settings.packageSegments_append_point, List.getLastD_eq_getLast?,
    List.getLast?_append_of_ne_nil _ (packageSegments_ne_nil back), simpleName,
    List.getLastD_eq_getLast?]

theorem simpleName_runtimeClass : simpleName (context.runtimeClass name) = simpleName name :=
  simpleName_append_point _ _

theorem simpleName_eq_self (noPoint : '.' ∉ name.toList) : simpleName name = name := by
  rw [simpleName, Settings.packageSegments, List.splitOn_eq_singleton noPoint]
  simp

theorem simpleName_simpleName (path : String) : simpleName (simpleName path) = simpleName path := by
  apply simpleName_eq_self
  rw [simpleName, List.getLastD_eq_getLast?,
    List.getLast?_eq_some_getLast (packageSegments_ne_nil path)]
  exact (Settings.mem_packageSegments (List.getLast_mem _)).1

end SimpleNames

namespace ResolvedMessage

variable {message : ResolvedMessage} {output : GenerationOutput} {description : ClassDescription}
  {fields : List ResolvedField} {path name : String}

section Classes

theorem Makes.mem_imports_iff (makes : message.Makes description fields) :
    path ∈ description.imports ↔
      path = message.context.runtimeClass description.baseClass ∨
        (description.baseClass = message.kind.baseClass ∧ path = "java.util.List") ∨
        FieldsImport message.context fields path := by
  cases makes with
  | ofMessage resolved =>
      rw [(isImageOf_messageClass message message.context fields).mem_imports_iff]
      simp [(isImageOf_messageClass message message.context fields).base]
  | ofStructure isKept hasVersions resolved =>
      rename_i definition versions
      have image := isImageOf_structureClass message.context definition.name versions fields
      have notMessage : structureBaseClass ≠ message.kind.baseClass := by
        cases message.kind <;> decide
      rw [image.mem_imports_iff]
      simp [image.base, notMessage]

theorem Makes.base_mem_imports (makes : message.Makes description fields) :
    message.context.runtimeClass description.baseClass ∈ description.imports :=
  makes.mem_imports_iff.mpr (.inl rfl)

theorem Makes.list_mem_imports (makes : message.Makes description fields)
    (isMessage : description.baseClass = message.kind.baseClass) :
    "java.util.List" ∈ description.imports :=
  makes.mem_imports_iff.mpr (.inr (.inl ⟨isMessage, rfl⟩))

theorem Makes.fieldClass_mem_imports (makes : message.Makes description fields)
    {field : ResolvedField} (field_mem : field ∈ fields) :
    message.context.runtimeClass fieldClass ∈ description.imports :=
  makes.mem_imports_iff.mpr (.inr (.inr (.inl ⟨List.ne_nil_of_mem field_mem, rfl⟩)))

theorem Makes.arrayClasses_mem_imports (makes : message.Makes description fields)
    {field : ResolvedField} (field_mem : field ∈ fields) (isArray : field.type.arrayDepth ≠ 0) :
    "java.util.ArrayList" ∈ description.imports ∧ "java.util.List" ∈ description.imports := by
  simp only [makes.mem_imports_iff]
  exact ⟨.inr (.inr (.inr (.inl ⟨field, field_mem, isArray, .inl rfl⟩))),
    .inr (.inr (.inr (.inl ⟨field, field_mem, isArray, .inr rfl⟩)))⟩

theorem Makes.uuid_mem_imports (makes : message.Makes description fields) {field : ResolvedField}
    (field_mem : field ∈ fields) (isUuid : field.type.innermost = .primitive .uuid) :
    "java.util.UUID" ∈ description.imports :=
  makes.mem_imports_iff.mpr (.inr (.inr (.inr (.inr ⟨field, field_mem, isUuid, rfl⟩))))

theorem Makes.baseClass_cases (makes : message.Makes description fields) :
    description.baseClass = message.kind.baseClass ∨
      (message.document.keptStructures ≠ [] ∧ description.baseClass = structureBaseClass) := by
  cases makes with
  | ofMessage resolved => exact .inl (isImageOf_messageClass message message.context fields).base
  | ofStructure isKept hasVersions resolved =>
      refine .inr ⟨List.ne_nil_of_mem isKept, ?_⟩
      exact (isImageOf_structureClass message.context _ _ fields).base

theorem exists_makes_message (generated : message.generate = .ok output) :
    ∃ fields, (message.document.fields.mapM fun field =>
        ResolvedField.resolve message.context field.toFieldAttributes) = .ok fields ∧
      message.Makes (message.messageClass message.context fields) fields ∧
      output.message = ⟨message.filePath, message.document.name,
        (message.messageClass message.context fields).source⟩ := by
  rcases generate_eq_ok_iff.mp generated with ⟨_, fields, _, -, fieldsRun, -, -, rfl⟩
  have resolved := mapM_resolve_of_emitFields fieldsRun
  exact ⟨fields, resolved, .ofMessage resolved, rfl⟩

/-- The class of the file of a structure that is kept. -/
theorem exists_makes_structure (generated : message.generate = .ok output)
    {definition : CommonStructure} (isKept : definition ∈ message.document.keptStructures) :
    ∃ description fields, message.Makes description fields ∧
      (definition.fields.mapM fun field =>
        ResolvedField.resolve message.context field.toFieldAttributes) = .ok fields ∧
      description.name = definition.name ∧ description.baseClass = structureBaseClass ∧
      definition.classFile message.context =
        .ok ⟨message.context.filePath description.name, description.name, description.source⟩ := by
  rcases Except.exists_result_of_mapM (mapM_classFile_of_generate generated) isKept with
    ⟨file, -, made⟩
  rcases CommonStructure.classFile_eq_ok_iff.mp made with
    ⟨versions, hasVersions, fields, resolved, rfl⟩
  exact ⟨_, fields, .ofStructure isKept hasVersions resolved, resolved, rfl, rfl, made⟩

/-- The files of a run hold the classes that it makes. -/
theorem mem_files_iff_makes (generated : message.generate = .ok output) {file : GeneratedFile} :
    file ∈ output.files ↔ ∃ description fields, message.Makes description fields ∧
      file = ⟨message.context.filePath description.name, description.name, description.source⟩ := by
  rcases exists_makes_message generated with
    ⟨messageFields, messageResolved, makesMessage, isMessage⟩
  have structures := mapM_classFile_of_generate generated
  rw [GenerationOutput.files, List.mem_append, List.mem_singleton]
  constructor
  · rintro (isStructure | rfl)
    · rcases Except.exists_input_of_mapM structures isStructure with ⟨definition, isKept, made⟩
      rcases exists_makes_structure generated isKept with
        ⟨description, fields, makes, -, -, -, isMade⟩
      exact ⟨description, fields, makes, Except.ok.inj (made.symm.trans isMade)⟩
    · exact ⟨_, messageFields, makesMessage, isMessage⟩
  · rintro ⟨description, fields, makes, rfl⟩
    cases makes with
    | ofMessage resolved =>
        cases messageResolved.symm.trans resolved
        exact .inr isMessage.symm
    | ofStructure isKept hasVersions resolved =>
        left
        rcases Except.exists_result_of_mapM structures isKept with ⟨file, file_mem, made⟩
        have isFile := CommonStructure.classFile_eq_ok_iff.mpr
          ⟨_, hasVersions, fields, resolved, rfl⟩
        cases made.symm.trans isFile
        exact file_mem

theorem Makes.exists_keptField (makes : message.Makes description fields) {field : ResolvedField}
    (field_mem : field ∈ fields) : ∃ kept ∈ message.document.keptFields,
      ResolvedField.resolve message.context kept.toFieldAttributes = .ok field := by
  cases makes with
  | ofMessage resolved =>
      rcases Except.exists_input_of_mapM resolved field_mem with ⟨kept, kept_mem, isResolved⟩
      exact ⟨kept, List.mem_append_left _ kept_mem, isResolved⟩
  | ofStructure isKept hasVersions resolved =>
      rcases Except.exists_input_of_mapM resolved field_mem with ⟨kept, kept_mem, isResolved⟩
      refine ⟨kept, List.mem_append_right _ ?_, isResolved⟩
      exact List.mem_flatMap.mpr ⟨_, isKept, kept_mem⟩

theorem exists_makes_of_mem_keptFields (generated : message.generate = .ok output) {kept : Field}
    (kept_mem : kept ∈ message.document.keptFields) : ∃ description fields,
      message.Makes description fields ∧ ∃ field ∈ fields,
        ResolvedField.resolve message.context kept.toFieldAttributes = .ok field := by
  rcases List.mem_append.mp kept_mem with ofMessage | ofStructure
  · rcases exists_makes_message generated with ⟨fields, resolved, makes, -⟩
    exact ⟨_, fields, makes, Except.exists_result_of_mapM resolved ofMessage⟩
  · rcases List.mem_flatMap.mp ofStructure with ⟨definition, isKept, kept_mem⟩
    rcases exists_makes_structure generated isKept with ⟨_, fields, makes, resolved, -⟩
    exact ⟨_, fields, makes, Except.exists_result_of_mapM resolved kept_mem⟩

theorem mem_className_of_keptField (generated : message.generate = .ok output) {kept : Field}
    (kept_mem : kept ∈ message.document.keptFields) (names : kept.structureName? = some name) :
    name ∈ output.structures.map (·.className) := by
  rcases List.mem_append.mp kept_mem with ofMessage | ofStructure
  · exact mem_className_of_structureName? generated List.mem_cons_self ofMessage names
  · rcases List.mem_flatMap.mp ofStructure with ⟨definition, isKept, kept_mem⟩
    apply mem_className_of_structureName? generated _ kept_mem names
    exact List.mem_cons_of_mem _ (List.mem_map_of_mem isKept)

end Classes

section Imports

theorem simpleName_baseClass (kind : MessageKind) : simpleName kind.baseClass = kind.baseClass := by
  cases kind <;> rfl

theorem Makes.simpleName_baseClass (makes : message.Makes description fields) :
    simpleName description.baseClass = description.baseClass := by
  rcases makes.baseClass_cases with isBase | ⟨-, isBase⟩
  · rw [isBase, ResolvedMessage.simpleName_baseClass]
  · rw [isBase]
    rfl

theorem Makes.importsName (makes : message.Makes description fields)
    (path_mem : path ∈ description.imports) : message.ImportsName (simpleName path) := by
  rcases makes.mem_imports_iff.mp path_mem with rfl | ⟨-, rfl⟩ | ⟨nonempty, rfl⟩ |
    ⟨field, field_mem, isArray, rfl | rfl⟩ | ⟨field, field_mem, isUuid, rfl⟩
  · rw [simpleName_runtimeClass, makes.simpleName_baseClass]
    rcases makes.baseClass_cases with isBase | ⟨hasStructure, isBase⟩
    · exact .inl isBase
    · exact .inr (.inr (.inl ⟨hasStructure, isBase⟩))
  · exact .inr (.inl (rfl))
  · rcases List.exists_mem_of_ne_nil fields nonempty with ⟨field, field_mem⟩
    rcases makes.exists_keptField field_mem with ⟨kept, kept_mem, -⟩
    rw [simpleName_runtimeClass]
    exact .inr (.inr (.inr ⟨kept, kept_mem, .inl (rfl)⟩))
  · rcases makes.exists_keptField field_mem with ⟨kept, kept_mem, resolved⟩
    exact .inr (.inr (.inr ⟨kept, kept_mem, .inr ⟨field.type,
      ResolvedField.parse_of_resolve resolved, .inl ⟨isArray, rfl⟩⟩⟩))
  · exact .inr (.inl (rfl))
  · rcases makes.exists_keptField field_mem with ⟨kept, kept_mem, resolved⟩
    exact .inr (.inr (.inr ⟨kept, kept_mem, .inr ⟨field.type,
      ResolvedField.parse_of_resolve resolved, .inr ⟨isUuid, rfl⟩⟩⟩))

theorem exists_import_of_importsName (generated : message.generate = .ok output)
    (isImported : message.ImportsName name) : ∃ description fields path,
      message.Makes description fields ∧ path ∈ description.imports ∧ simpleName path = name := by
  rcases exists_makes_message generated with ⟨messageFields, -, makesMessage, -⟩
  have isMessage := (isImageOf_messageClass message message.context messageFields).base
  rcases isImported with rfl | rfl | ⟨hasStructure, rfl⟩ | ⟨kept, kept_mem, ofField⟩
  · refine ⟨_, messageFields, _, makesMessage, makesMessage.base_mem_imports, ?_⟩
    rw [simpleName_runtimeClass, isMessage, simpleName_baseClass]
  · exact ⟨_, messageFields, _, makesMessage, makesMessage.list_mem_imports isMessage,
      rfl⟩
  · rcases List.exists_mem_of_ne_nil _ hasStructure with ⟨definition, isKept⟩
    rcases exists_makes_structure generated isKept with
      ⟨description, fields, makes, -, -, isStructure, -⟩
    refine ⟨description, fields, _, makes, makes.base_mem_imports, ?_⟩
    rw [simpleName_runtimeClass, makes.simpleName_baseClass, isStructure]
  · rcases exists_makes_of_mem_keptFields generated kept_mem with
      ⟨description, fields, makes, field, field_mem, resolved⟩
    rcases ofField with rfl | ⟨type, isType, needed⟩
    · refine ⟨description, fields, _, makes, makes.fieldClass_mem_imports field_mem, ?_⟩
      rw [simpleName_runtimeClass]
      rfl
    · cases isType.symm.trans (ResolvedField.parse_of_resolve resolved)
      rcases needed with ⟨isArray, rfl⟩ | ⟨isUuid, rfl⟩
      · exact ⟨description, fields, _, makes, (makes.arrayClasses_mem_imports field_mem isArray).1,
          rfl⟩
      · exact ⟨description, fields, _, makes, makes.uuid_mem_imports field_mem isUuid,
          rfl⟩

/-- Which names are imported is known from the document, and so is whether one is shadowed. -/
theorem shadowsNoImport_iff (generated : message.generate = .ok output) :
    message.ShadowsNoImport ↔
      ∀ file ∈ output.files, ¬message.ImportsName (simpleName file.className) := by
  constructor
  · intro shadowsNone file file_mem isImported
    rcases (mem_files_iff_makes generated).mp file_mem with ⟨other, otherFields, otherMakes, rfl⟩
    rcases exists_import_of_importsName generated isImported with
      ⟨description, fields, path, makes, path_mem, sameName⟩
    exact shadowsNone description fields other otherFields makes otherMakes path path_mem sameName
  · intro notImported description fields other otherFields makes otherMakes path path_mem sameName
    have file_mem := (mem_files_iff_makes generated).mpr ⟨other, otherFields, otherMakes, rfl⟩
    apply notImported _ file_mem
    rw [← sameName]
    exact makes.importsName path_mem

end Imports

section Meanings

/-- The full name of an import with a simple name. -/
def importPath (message : ResolvedMessage) (name : String) : String :=
  if name ∈ ["ArrayList", "List", "UUID"] then "java.util." ++ name
  else message.context.runtimeClass name

theorem importPath_runtimeClass (isSimple : simpleName name = name)
    (notLibrary : name ∉ ["ArrayList", "List", "UUID"]) :
    message.importPath (simpleName (message.context.runtimeClass name)) =
      message.context.runtimeClass name := by
  rw [simpleName_runtimeClass, isSimple, importPath, if_neg notLibrary]

/-- A class does not import two classes with one simple name. -/
theorem Makes.eq_importPath (makes : message.Makes description fields)
    (path_mem : path ∈ description.imports) : path = message.importPath (simpleName path) := by
  rcases makes.mem_imports_iff.mp path_mem with rfl | ⟨-, rfl⟩ | ⟨-, rfl⟩ |
    ⟨-, -, -, rfl | rfl⟩ | ⟨-, -, -, rfl⟩
  · refine (importPath_runtimeClass makes.simpleName_baseClass ?_).symm
    rcases makes.baseClass_cases with isBase | ⟨-, isBase⟩
    · rw [isBase]
      cases message.kind <;> decide
    · rw [isBase]
      decide
  · rfl
  · exact (importPath_runtimeClass (rfl) (by decide)).symm
  · rfl
  · rfl
  · rfl

/-- What a class uses under a simple name is imported by it, or is a class of the run. -/
theorem Makes.canMean_of_uses (generated : message.generate = .ok output)
    (makes : message.Makes description fields)
    (uses : message.Uses description fields name path) :
    message.CanMean description name path := by
  cases uses with
  | base =>
      refine .inl ⟨makes.base_mem_imports, ?_⟩
      rw [simpleName_runtimeClass, makes.simpleName_baseClass]
  | flexibleVersions isMessage =>
      exact .inl ⟨makes.list_mem_imports isMessage, rfl⟩
  | registration field_mem =>
      refine .inl ⟨makes.fieldClass_mem_imports field_mem, ?_⟩
      rw [simpleName_runtimeClass]
      rfl
  | list field_mem isArray =>
      exact .inl ⟨(makes.arrayClasses_mem_imports field_mem isArray).2, rfl⟩
  | arrayList field_mem isArray =>
      exact .inl ⟨(makes.arrayClasses_mem_imports field_mem isArray).1, rfl⟩
  | uuid field_mem isUuid =>
      exact .inl ⟨makes.uuid_mem_imports field_mem isUuid, rfl⟩
  | struct field_mem names =>
      rcases makes.exists_keptField field_mem with ⟨kept, kept_mem, resolved⟩
      have isMade := mem_className_of_keptField generated kept_mem
        ((structureName?_of_resolve resolved).trans names)
      rcases List.mem_map.mp isMade with ⟨file, file_mem, rfl⟩
      rcases (mem_files_iff_makes generated).mp (List.mem_append_left _ file_mem) with
        ⟨other, otherFields, otherMakes, rfl⟩
      exact .inr ⟨other, otherFields, otherMakes, rfl, rfl⟩

/-- If no import is shadowed, a simple name stands for one class at most. -/
theorem CanMean.unique {other : String} (shadowsNone : message.ShadowsNoImport)
    (makes : message.Makes description fields) (first : message.CanMean description name path)
    (second : message.CanMean description name other) : path = other := by
  have apart {imported : String} {struct : ClassDescription} {structFields : List ResolvedField}
      (imported_mem : imported ∈ description.imports)
      (structMakes : message.Makes struct structFields) : simpleName imported ≠ struct.name := by
    intro sameName
    apply shadowsNone _ _ _ _ makes structMakes imported imported_mem
    rw [← sameName, simpleName_simpleName]
  rcases first with ⟨path_mem, rfl⟩ | ⟨struct, _, structMakes, rfl, rfl⟩
  · rcases second with ⟨other_mem, sameName⟩ | ⟨struct, _, structMakes, isName, -⟩
    · rw [makes.eq_importPath path_mem, makes.eq_importPath other_mem, sameName]
    · exact absurd isName.symm (apart path_mem structMakes)
  · rcases second with ⟨other_mem, sameName⟩ | ⟨_, _, _, -, rfl⟩
    · exact absurd sameName (apart other_mem structMakes)
    · rfl

end Meanings

/--
The files of a run hold the classes that it makes. None of them shadows an import of
another exactly if no simple name of a class is one that the kind of the message or the
fields make some class import. Then each simple name that a class uses stands for the
class that is meant, and for no other.
-/
theorem imports_not_shadowed_iff (generated : message.generate = .ok output) :
    (∀ file, file ∈ output.files ↔ ∃ description fields, message.Makes description fields ∧
      file = ⟨message.context.filePath description.name, description.name, description.source⟩) ∧
    (message.ShadowsNoImport ↔
      ∀ file ∈ output.files, ¬message.ImportsName (simpleName file.className)) ∧
    (message.ShadowsNoImport → ∀ description fields, message.Makes description fields →
      ∀ name path, message.Uses description fields name path →
        ∀ other, message.CanMean description name other ↔ other = path) := by
  refine ⟨fun _ => mem_files_iff_makes generated, shadowsNoImport_iff generated, ?_⟩
  intro shadowsNone description fields makes name path uses other
  have isMeant := makes.canMean_of_uses generated uses
  constructor
  · intro canMean
    exact canMean.unique shadowsNone makes isMeant
  · rintro rfl
    exact isMeant

/-- A request with a structure of the given name in a field. -/
def enclosingRequest (structureName : String) : Document where
  name := "OfferRequest"
  type := "request"
  apiKey := 3
  validVersions := "0-2"
  flexibleVersions := none
  commonStructures := []
  fields := [.declaring "Key" structureName (some [.declaring "Text" "string" none])]

theorem run_enclosingRequest : ∀ structureName ∈ ["UUID", "List"],
    ((resolve (enclosingRequest structureName) .standard).toOption.map fun message =>
      (message.kind, message.package, message.generate.toOption.map fun output =>
        output.files.map (·.className))) =
      some (.request, "org.wiregen.protocol.offer", some [structureName, "OfferRequest"]) := by
  decide +kernel

/-- A structure may have the name of a library class that nothing in the run needs. -/
theorem imports_not_shadowed_uuid : ∃ message output,
    resolve (enclosingRequest "UUID") .standard = .ok message ∧ message.generate = .ok output ∧
    message.ShadowsNoImport ∧ ∃ description fields, message.Makes description fields ∧
      ∀ other, message.CanMean description "UUID" other ↔
        other = "org.wiregen.protocol.offer.UUID" := by
  rcases Except.exists_ok_of_map_toOption (run_enclosingRequest "UUID" (by decide)) with
    ⟨message, resolved, computed⟩
  simp only [Prod.mk.injEq] at computed
  rcases computed with ⟨isRequest, isPackage, generates⟩
  rcases Except.exists_ok_of_map_toOption generates with ⟨output, generated, classNames⟩
  have isDocument := document_of_resolve resolved
  have isKept : message.document.keptFields =
      [.declaring "Key" "UUID" (some [.declaring "Text" "string" none]),
        .declaring "Text" "string" none] := by
    rw [isDocument]
    rfl
  have notUuid : ∀ kept ∈ message.document.keptFields, ∀ type,
      FieldType.parse kept.name kept.type = .ok type → type.innermost ≠ .primitive .uuid := by
    rw [isKept]
    simp only [List.forall_mem_cons, List.not_mem_nil, false_implies, implies_true, and_true]
    constructor
    · rintro type ⟨⟩
      decide
    · rintro type ⟨⟩
      decide
  have notImported : ∀ name ∈ ["UUID", "OfferRequest"], ¬message.ImportsName name := by
    have others : ∀ name ∈ ["UUID", "OfferRequest"], name ≠ MessageKind.request.baseClass ∧
        name ≠ "List" ∧ name ≠ structureBaseClass ∧ name ≠ fieldClass ∧ name ≠ "ArrayList" := by
      decide
    intro name name_mem isImported
    rcases others name name_mem with ⟨notBase, notList, notStructure, notField, notArrayList⟩
    rcases isImported with isBase | isList | ⟨-, isStructure⟩ | ⟨kept, kept_mem, ofField⟩
    · exact notBase (isRequest ▸ isBase)
    · exact notList isList
    · exact notStructure isStructure
    rcases ofField with isField | ⟨type, isType, ⟨-, isArrayList⟩ | ⟨isUuid, -⟩⟩
    · exact notField isField
    · exact notArrayList isArrayList
    · exact notUuid kept kept_mem type isType isUuid
  rcases imports_not_shadowed_iff generated with ⟨-, shadowsNone_iff, meanings⟩
  have shadowsNone : message.ShadowsNoImport := by
    apply shadowsNone_iff.mpr
    intro file file_mem
    have isName : file.className ∈ ["UUID", "OfferRequest"] :=
      classNames ▸ List.mem_map_of_mem file_mem
    have isSimple : ∀ name ∈ ["UUID", "OfferRequest"], simpleName name = name :=
      List.forall_mem_cons.mpr ⟨rfl, List.forall_mem_singleton.mpr rfl⟩
    rw [isSimple _ isName]
    exact notImported _ isName
  rcases exists_makes_of_mem_keptFields generated (isKept ▸ List.mem_cons_self) with
    ⟨description, fields, makes, field, field_mem, fieldResolved⟩
  have names : field.type.structureName? = some "UUID" :=
    (structureName?_of_resolve fieldResolved).symm.trans rfl
  have isMeant := meanings shadowsNone _ _ makes _ _ (.struct field_mem names)
  rw [isPackage] at isMeant
  exact ⟨message, output, resolved, generated, shadowsNone, description, fields, makes, isMeant⟩

/-- A class of the run can have the name of an imported one. -/
theorem imports_shadowed_list : ¬∀ document settings message output,
    resolve document settings = .ok message → message.generate = .ok output →
      message.ShadowsNoImport := by
  intro neverShadowed
  rcases Except.exists_ok_of_map_toOption (run_enclosingRequest "List" (by decide)) with
    ⟨message, resolved, computed⟩
  simp only [Prod.mk.injEq] at computed
  rcases computed with ⟨-, -, generates⟩
  rcases Except.exists_ok_of_map_toOption generates with ⟨output, generated, classNames⟩
  have list_mem : "List" ∈ output.files.map (·.className) := by
    simp [classNames]
  rcases List.mem_map.mp list_mem with ⟨file, file_mem, isList⟩
  have notImported := (shadowsNoImport_iff generated).mp
    (neverShadowed _ _ message output resolved generated) file file_mem
  rw [isList] at notImported
  exact notImported (.inr (.inl rfl))

end ResolvedMessage

end MessageGen
