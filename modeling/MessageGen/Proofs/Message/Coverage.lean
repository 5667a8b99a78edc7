import MessageGen.Proofs.Message.Conflicts
import MessageGen.Proofs.Structure.Coverage

/-!
# What generation covers

A message is generated only if the fields of its document are valid and the structures
declared there have classes, except inside the definitions that the run passes over.
What is inside those is neither checked nor made, and where it matters the document has
an unnoticed fault, or a structure without a class. Without names that are defined twice
there are no such definitions.
-/

namespace MessageGen

open CommonStructure

/-- The names of the structures that a document declares, as often as it declares them. -/
def Document.declaredNames (document : Document) : List String :=
  document.definitions.map (·.name)

/-- The class names of the structure files. -/
def GenerationOutput.structureNames (output : GenerationOutput) : List String :=
  output.structures.map (·.className)

/-- A request that defines `Topic` twice, the second time with the given fields. -/
def redefiningRequest (fields : List Field) : Document where
  name := "FetchRequest"
  type := "request"
  apiKey := 1
  validVersions := "0-3"
  flexibleVersions := none
  commonStructures := [⟨"Topic", allVersions, [.declaring "Name" "string" none]⟩]
  fields := [.declaring "Items" "[]Topic" (some fields)]

/-- A request whose second `Topic` has a field of an unknown type. -/
def brokenRequest : Document :=
  redefiningRequest [.declaring "Broken" "nothing" none]

/-- A request whose second `Topic` defines a further structure. -/
def partitionRequest : Document :=
  redefiningRequest [.declaring "Partitions" "[]Partition"
    (some [.declaring "Index" "int32" none])]

namespace ResolvedMessage

variable {document : Document} {settings : Settings} {message : ResolvedMessage}
  {output : GenerationOutput} {context : ClassContext} {registry final : StructureRegistry}
  {kept commons : List CommonStructure}

theorem covers_of_emitCommons
    (run : (emitCommons context commons).runWith registry = (.ok (), final))
    (accounts : registry.Accounts context kept) : ∀ common ∈ commons,
      Covers context (keepCommons commons kept) (passedCommons commons kept) common := by
  induction commons generalizing registry kept with
  | nil => exact fun common common_mem => absurd common_mem List.not_mem_nil
  | cons first commons ih =>
      rcases emitCommons_cons_eq_ok_iff.mp run with
        ⟨versions, middle, hasVersions, made, continued⟩
      have later := accounts_of_emitStructure first accounts_of_emitFields hasVersions made accounts
      have covers := covers_of_emitStructure first reaches_of_emitFields made accounts
      intro common common_mem
      rcases List.mem_cons.mp common_mem with rfl | common_mem
      · exact covers.mono (isKept_keepCommons commons _) (List.subset_append_left _ _)
      · exact (ih continued later common common_mem).mono (fun _ isKept => isKept)
          (List.subset_append_right _ _)

section Runs

variable {afterCommons : StructureRegistry} {resolvedFields : List ResolvedField}
  (commonsRun : (emitCommons context document.commonStructures).runWith ∅ = (.ok (), afterCommons))
  (fieldsRun : (emitFields context document.fields).runWith afterCommons =
    (.ok resolvedFields, registry))

include commonsRun fieldsRun

/-- A run covers the common structures of its document, and reaches what is inside all fields. -/
theorem covers_of_run :
    (∀ nested ∈ nestedFields document.fields,
      Reaches context document.keptStructures document.passedOver nested) ∧
    ∀ common ∈ document.commonStructures,
      Covers context document.keptStructures document.passedOver common := by
  have accounts := accounts_of_emitCommons commonsRun accounts_empty
  refine ⟨?_, ?_⟩
  · intro nested nested_mem
    exact (reaches_of_emitFields fieldsRun accounts nested nested_mem).mono
      (fun _ isKept => isKept) (List.subset_append_right _ _)
  · intro common common_mem
    exact (covers_of_emitCommons commonsRun accounts_empty common common_mem).mono
      (isKept_keepFields document.fields _) (List.subset_append_left _ _)

/-- The name of a definition is kept, or the definition is inside one that is passed over. -/
theorem isKept_or_of_run {definition : CommonStructure}
    (definition_mem : definition ∈ document.definitions) :
    isKept document.keptStructures definition.name = true ∨
      ∃ other ∈ document.passedOver, definition ∈ definitionsWithin other.fields := by
  rcases covers_of_run commonsRun fieldsRun with ⟨reaches, covers⟩
  rcases List.mem_append.mp definition_mem with inCommon | inFields
  · rcases List.mem_flatMap.mp inCommon with ⟨common, common_mem, definition_mem⟩
    exact (covers common common_mem).isKept_or definition_mem
  · rcases List.mem_filterMap.mp inFields with ⟨nested, nested_mem, isDefinition⟩
    exact (reaches nested nested_mem).isKept_or isDefinition

end Runs

theorem fieldsValid_of_generate (generated : message.generate = .ok output) :
    FieldsValid message.context message.document.fields := by
  rcases generate_eq_ok_iff.mp generated with
    ⟨afterCommons, resolvedFields, registry, -, fieldsRun, -, checked, -⟩
  exact fieldsValid_of_emitFields fieldsRun (hasDistinctAccessors_of_checkMethods
    (mapM_resolve_of_emitFields fieldsRun) checked)

/-- A list of fields of the document is valid, or belongs to a definition that is passed over. -/
theorem fieldsValid_or_of_generate (generated : message.generate = .ok output)
    {fields : List Field} (fields_mem : fields ∈ message.document.fieldLists) :
    FieldsValid message.context fields ∨
      ∃ definition ∈ message.document.passedOver, fields ∈ listsOf definition.fields := by
  rcases generate_eq_ok_iff.mp generated with ⟨_, _, _, commonsRun, fieldsRun, -⟩
  rcases covers_of_run commonsRun fieldsRun with ⟨reaches, covers⟩
  rcases List.mem_append.mp fields_mem with inCommon | inFields
  · rcases List.mem_flatMap.mp inCommon with ⟨common, common_mem, fields_mem⟩
    exact (covers common common_mem).fieldsValid_or fields_mem
  · rcases List.mem_cons.mp inFields with rfl | fields_mem
    · exact Or.inl (fieldsValid_of_generate generated)
    · rcases List.mem_map.mp fields_mem with ⟨nested, nested_mem, rfl⟩
      exact (reaches nested nested_mem).fieldsValid_or

theorem isKept_or_of_generate (generated : message.generate = .ok output)
    {definition : CommonStructure} (definition_mem : definition ∈ message.document.definitions) :
    isKept message.document.keptStructures definition.name = true ∨
      ∃ other ∈ message.document.passedOver, definition ∈ definitionsWithin other.fields := by
  rcases generate_eq_ok_iff.mp generated with ⟨_, _, _, commonsRun, fieldsRun, -⟩
  exact isKept_or_of_run commonsRun fieldsRun definition_mem

/--
Whatever is wrong with a field of a document, a run that succeeds has passed over the
definition that holds it: all lists of fields are valid exactly if those in definitions
passed over are. A document that defines no name twice has no fault that goes unnoticed.
-/
theorem fields_valid_iff (resolved : resolve document settings = .ok message)
    (generated : message.generate = .ok output) :
    (∀ fields ∈ document.fieldLists, FieldsValid message.context fields ∨
      ∃ definition ∈ document.passedOver, fields ∈ listsOf definition.fields) ∧
    ((∀ fields ∈ document.fieldLists, FieldsValid message.context fields) ↔
      ∀ definition ∈ document.passedOver, ∀ fields ∈ listsOf definition.fields,
        FieldsValid message.context fields) ∧
    (document.declaredNames.Nodup →
      ∀ fields ∈ document.fieldLists, FieldsValid message.context fields) := by
  rw [← document_of_resolve resolved]
  have checked := fun fields (fields_mem : fields ∈ message.document.fieldLists) =>
    fieldsValid_or_of_generate generated fields_mem
  have valid_iff : (∀ fields ∈ message.document.fieldLists, FieldsValid message.context fields) ↔
      ∀ definition ∈ message.document.passedOver, ∀ fields ∈ listsOf definition.fields,
        FieldsValid message.context fields := by
    constructor
    · intro valid definition isPassed fields fields_mem
      have isDefined := message.document.passedOver_subset_definitions isPassed
      exact valid fields ((Document.inside_subset_of_mem_definitions isDefined).2 fields_mem)
    · intro valid fields fields_mem
      rcases checked fields fields_mem with isValid | ⟨definition, isPassed, inside⟩
      · exact isValid
      · exact valid definition isPassed fields inside
  refine ⟨checked, valid_iff, ?_⟩
  intro distinct
  rw [valid_iff, Document.passedOver_eq_nil distinct]
  exact fun definition definition_mem => absurd definition_mem List.not_mem_nil

theorem fields_valid_forest : ∃ message output, resolve forestDocument .standard = .ok message ∧
    message.generate = .ok output ∧
    ∀ fields ∈ forestDocument.fieldLists, FieldsValid message.context fields := by
  have succeeds : (resolve forestDocument .standard >>= generate).isOk = true := by
    decide +kernel
  rcases Except.exists_ok_of_isOk succeeds with ⟨output, run⟩
  rcases Except.bind_eq_ok_iff.mp run with ⟨message, resolved, generated⟩
  have nothingPassed : forestDocument.passedOver = [] := by decide
  refine ⟨message, output, resolved, generated, ?_⟩
  rw [(fields_valid_iff resolved generated).2.1, nothingPassed]
  exact fun definition isPassed => absurd isPassed List.not_mem_nil

/-- A field of an unknown type goes unnoticed in a definition that is passed over. -/
theorem fields_not_valid_broken : ¬∀ document settings message output,
    resolve document settings = .ok message → message.generate = .ok output →
      ∀ fields ∈ document.fieldLists, FieldsValid message.context fields := by
  intro valid
  have succeeds : (resolve brokenRequest .standard >>= generate).isOk = true := by
    decide +kernel
  rcases Except.exists_ok_of_isOk succeeds with ⟨output, run⟩
  rcases Except.bind_eq_ok_iff.mp run with ⟨message, resolved, generated⟩
  have inner_mem : [Field.declaring "Broken" "nothing" none] ∈ brokenRequest.fieldLists := by
    simp [brokenRequest, redefiningRequest, Document.fieldLists, listsOf, Field.declaring]
  have isValid := valid brokenRequest .standard message output resolved generated _ inner_mem
  rcases (fieldsValid_iff.mp isValid).1 _ List.mem_cons_self with ⟨resolves, -⟩
  cases resolves

/--
The structure files have different class names, all of them declared in the document.
A definition that is passed over has the name of a class, but what is declared inside it
may have none: the class names are those that the document declares exactly if all names
inside such definitions have a class.
-/
theorem structure_names_iff (resolved : resolve document settings = .ok message)
    (generated : message.generate = .ok output) :
    output.structureNames.Nodup ∧ output.structureNames ⊆ document.declaredNames ∧
    (∀ other ∈ document.passedOver, other.name ∈ output.structureNames) ∧
    (∀ name ∈ document.declaredNames, name ∈ output.structureNames ∨
      ∃ other ∈ document.passedOver, name ∈ (definitionsWithin other.fields).map (·.name)) ∧
    ((∀ name, name ∈ output.structureNames ↔ name ∈ document.declaredNames) ↔
      ∀ other ∈ document.passedOver,
        (definitionsWithin other.fields).map (·.name) ⊆ output.structureNames) ∧
    (document.declaredNames.Nodup → output.structureNames.Perm document.declaredNames) := by
  have names : output.structureNames = document.keptStructures.map (·.name) := by
    rw [← document_of_resolve resolved]
    exact map_className_of_generate generated
  have distinctNames : output.structureNames.Nodup := nodup_className_of_generate generated
  have isDeclared : output.structureNames ⊆ document.declaredNames := by
    rw [names]
    exact List.map_subset _ document.keptStructures_subset_definitions
  have passedNames : ∀ other ∈ document.passedOver, other.name ∈ output.structureNames := by
    rw [names]
    exact fun other isPassed => Document.name_of_mem_passedOver isPassed
  have reached : ∀ name ∈ document.declaredNames, name ∈ output.structureNames ∨
      ∃ other ∈ document.passedOver, name ∈ (definitionsWithin other.fields).map (·.name) := by
    intro name name_mem
    rcases List.mem_map.mp name_mem with ⟨definition, definition_mem, rfl⟩
    rw [← document_of_resolve resolved] at definition_mem names ⊢
    rw [names, ← isKept_iff_mem]
    refine (isKept_or_of_generate generated definition_mem).imp_right ?_
    rintro ⟨other, isPassed, inside⟩
    exact ⟨other, isPassed, List.mem_map_of_mem inside⟩
  have names_iff : (∀ name, name ∈ output.structureNames ↔ name ∈ document.declaredNames) ↔
      ∀ other ∈ document.passedOver,
        (definitionsWithin other.fields).map (·.name) ⊆ output.structureNames := by
    constructor
    · intro same other isPassed name name_mem
      have isDefined := document.passedOver_subset_definitions isPassed
      exact (same name).mpr
        (List.map_subset _ (Document.inside_subset_of_mem_definitions isDefined).1 name_mem)
    · intro inside name
      refine ⟨(isDeclared ·), ?_⟩
      intro name_mem
      rcases reached name name_mem with isMade | ⟨other, isPassed, name_mem⟩
      · exact isMade
      · exact inside other isPassed name_mem
  refine ⟨distinctNames, isDeclared, passedNames, reached, names_iff, ?_⟩
  intro distinct
  rw [List.perm_ext_iff_of_nodup distinctNames distinct, names_iff,
    Document.passedOver_eq_nil distinct]
  exact fun other isPassed => absurd isPassed List.not_mem_nil

theorem structure_names_forest : ∃ message output, resolve forestDocument .standard = .ok message ∧
    message.generate = .ok output ∧ output.structureNames.Nodup ∧
    ∀ name, name ∈ output.structureNames ↔ name ∈ ["Tree", "Leaf", "Leaf"] := by
  have succeeds : (resolve forestDocument .standard >>= generate).isOk = true := by
    decide +kernel
  rcases Except.exists_ok_of_isOk succeeds with ⟨output, run⟩
  rcases Except.bind_eq_ok_iff.mp run with ⟨message, resolved, generated⟩
  have nothingPassed : forestDocument.passedOver = [] := by decide
  have declared : forestDocument.declaredNames = ["Tree", "Leaf", "Leaf"] := by decide
  rcases structure_names_iff resolved generated with ⟨distinct, -, -, -, names_iff, -⟩
  rw [nothingPassed, declared] at names_iff
  exact ⟨message, output, resolved, generated, distinct,
    names_iff.mpr fun other isPassed => absurd isPassed List.not_mem_nil⟩

/-- A structure has no class if it is declared inside a definition that is passed over. -/
theorem structure_names_not_declared_partition : ¬∀ document settings message output,
    resolve document settings = .ok message → message.generate = .ok output →
      output.structureNames.Nodup ∧
      ∀ name, name ∈ output.structureNames ↔ name ∈ document.declaredNames := by
  intro same
  have outcome : ((resolve partitionRequest .standard >>= generate).toOption.map
      GenerationOutput.structureNames) = some ["Topic"] := by
    decide +kernel
  rcases Except.exists_ok_of_map_toOption outcome with ⟨output, run, names⟩
  rcases Except.bind_eq_ok_iff.mp run with ⟨message, resolved, generated⟩
  have isMade := ((same partitionRequest .standard message output resolved generated).2
    "Partition").mpr (by decide)
  rw [names] at isMade
  exact absurd isMade (by decide)

end ResolvedMessage

end MessageGen
