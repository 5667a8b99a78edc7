import MessageGen.Proofs.Message.Coverage
import MessageGen.Proofs.Structure.Success

/-!
# Documents without names that are defined twice

A run keeps all definitions of such a document. So it succeeds exactly if nothing is wrong
with the fields of the message and of the definitions, wherever they stand, if what they
name is defined, and if the message can declare its methods.
-/

namespace MessageGen

open CommonStructure

/-- The structures that are named by the fields of the message and of all definitions. -/
def Document.namedStructures (document : Document) : List String :=
  (document.fields ++ document.definitions.flatMap (·.fields)).filterMap (·.structureName?)

namespace Document

variable {document : Document}

theorem namedStructures_subset {fields : List Field}
    (isOwn : fields ⊆ document.fields ++ document.definitions.flatMap (·.fields))
    (inside : definitionsWithin fields ⊆ document.definitions) :
    MessageGen.namedStructures fields ⊆ document.namedStructures := by
  apply List.filterMap_subset
  refine List.append_subset.mpr ⟨isOwn, ?_⟩
  intro field field_mem
  rcases List.mem_flatMap.mp field_mem with ⟨definition, definition_mem, field_mem⟩
  apply List.mem_append_right
  exact List.mem_flatMap.mpr ⟨definition, inside definition_mem, field_mem⟩

theorem namedStructures_fields_subset :
    MessageGen.namedStructures document.fields ⊆ document.namedStructures := by
  apply namedStructures_subset (List.subset_append_left _ _)
  exact List.subset_append_right _ _

theorem namedStructures_common_subset {common : CommonStructure}
    (common_mem : common ∈ document.commonStructures) :
    MessageGen.namedStructures common.fields ⊆ document.namedStructures := by
  have common_isDefined : common ∈ document.definitions :=
    List.mem_append_left _ (List.mem_flatMap.mpr ⟨common, common_mem, List.mem_cons_self⟩)
  apply namedStructures_subset _ (inside_subset_of_mem_definitions common_isDefined).1
  intro field field_mem
  apply List.mem_append_right
  exact List.mem_flatMap.mpr ⟨common, common_isDefined, field_mem⟩

end Document

namespace ResolvedMessage

variable {document : Document} {message : ResolvedMessage} {output : GenerationOutput}
  {context : ClassContext} {registry final : StructureRegistry} {commons : List CommonStructure}

/-- Nothing is wrong with a document, in an order that makes no difference. -/
structure IsSound (message : ResolvedMessage) : Prop where
  versions : ∀ common ∈ message.document.commonStructures, ∃ versions,
    ResolvedField.resolveWithin message.context common.versions message.context.validVersions =
      .ok versions
  fields : FieldsResolve message.context message.document.fields
  valid : ∀ definition ∈ message.document.definitions,
    FieldsValid message.context definition.fields
  named : ∀ name ∈ message.document.namedStructures, name ∈ message.document.declaredNames
  methods : (methodNames message.document.fields ++ message.kindMethodNames).Nodup
  notFinal : "getClass" ∉ methodNames message.document.fields ++ message.kindMethodNames

section Kept

variable {afterCommons : StructureRegistry} {resolvedFields : List ResolvedField}
  (distinct : document.declaredNames.Nodup)
  (commonsRun : (emitCommons context document.commonStructures).runWith ∅ = (.ok (), afterCommons))
  (fieldsRun : (emitFields context document.fields).runWith afterCommons =
    (.ok resolvedFields, registry))

include distinct commonsRun fieldsRun

theorem isKept_of_run {definition : CommonStructure}
    (definition_mem : definition ∈ document.definitions) :
    isKept document.keptStructures definition.name = true := by
  rcases isKept_or_of_run commonsRun fieldsRun definition_mem with kept | ⟨other, isPassed, -⟩
  · exact kept
  · rw [Document.passedOver_eq_nil distinct] at isPassed
    cases isPassed

theorem keptStructures_perm : document.keptStructures.Perm document.definitions := by
  rw [List.perm_ext_iff_of_nodup document.nodup_keptStructures.of_map distinct.of_map]
  intro definition
  refine ⟨(document.keptStructures_subset_definitions ·), ?_⟩
  intro definition_mem
  -- What is kept under the name of a definition is the definition, as no other has the name.
  have kept := isKept_of_run distinct commonsRun fieldsRun definition_mem
  rcases List.mem_map.mp (isKept_iff_mem.mp kept) with ⟨other, other_mem, sameName⟩
  have other_isDefined := document.keptStructures_subset_definitions other_mem
  rwa [← List.inj_on_of_nodup_map distinct other_isDefined definition_mem sameName]

end Kept

theorem keptStructures_perm_of_generate (distinct : message.document.declaredNames.Nodup)
    (generated : message.generate = .ok output) :
    message.document.keptStructures.Perm message.document.definitions := by
  rcases generate_eq_ok_iff.mp generated with ⟨_, _, _, commonsRun, fieldsRun, -⟩
  exact keptStructures_perm distinct commonsRun fieldsRun

theorem exists_run_emitCommons
    (versions : ∀ common ∈ commons, ∃ versions,
      ResolvedField.resolveWithin context common.versions context.validVersions = .ok versions)
    (valid : ∀ definition ∈ commons.flatMap definitions, FieldsValid context definition.fields)
    (registry : StructureRegistry) :
    ∃ final, (emitCommons context commons).runWith registry = (.ok (), final) := by
  induction commons generalizing registry with
  | nil => exact ⟨registry, rfl⟩
  | cons common commons ih =>
      rcases List.forall_mem_cons.mp versions with ⟨⟨set, hasVersions⟩, versions⟩
      simp only [List.flatMap_cons, definitions, List.mem_append, List.mem_cons] at valid
      have commonValid := fieldsValid_iff.mp (valid common (Or.inl (Or.inl rfl)))
      have inside := exists_run_emitFields common.fields commonValid.1 fun definition inside =>
        valid definition (Or.inl (Or.inr inside))
      rcases exists_run_emitStructure inside commonValid.2 common.name set registry with
        ⟨middle, made⟩
      rcases ih versions (fun definition behind => valid definition (Or.inr behind)) middle with
        ⟨final, continued⟩
      exact ⟨final, emitCommons_cons_eq_ok_iff.mpr ⟨set, middle, hasVersions, made, continued⟩⟩

theorem references_of_emitCommons
    (run : (emitCommons context commons).runWith registry = (.ok (), final)) :
    ∀ reference ∈ final.references, reference ∈ registry.references ∨
      ∃ common ∈ commons, reference.structureName ∈ namedStructures common.fields := by
  induction commons generalizing registry with
  | nil =>
      cases run
      exact fun reference reference_mem => Or.inl reference_mem
  | cons common commons ih =>
      rcases emitCommons_cons_eq_ok_iff.mp run with ⟨_, middle, -, made, continued⟩
      intro reference reference_mem
      rcases ih continued reference reference_mem with before | ⟨other, other_mem, named⟩
      · refine (references_of_emitStructure references_of_emitFields made reference before).imp_right
          fun named => ⟨common, List.mem_cons_self, named⟩
      · exact Or.inr ⟨other, List.mem_cons_of_mem common other_mem, named⟩

theorem versions_of_emitCommons
    (run : (emitCommons context commons).runWith registry = (.ok (), final)) :
    ∀ common ∈ commons, ∃ versions,
      ResolvedField.resolveWithin context common.versions context.validVersions = .ok versions := by
  induction commons generalizing registry with
  | nil => exact fun common common_mem => absurd common_mem List.not_mem_nil
  | cons common commons ih =>
      rcases emitCommons_cons_eq_ok_iff.mp run with ⟨versions, middle, hasVersions, -, continued⟩
      exact List.forall_mem_cons.mpr ⟨⟨versions, hasVersions⟩, ih continued⟩

theorem isSound_of_generate (distinct : message.document.declaredNames.Nodup)
    (generated : message.generate = .ok output) : message.IsSound := by
  have classNames := map_className_of_generate generated
  rcases generate_eq_ok_iff.mp generated with
    ⟨afterCommons, fields, registry, commonsRun, fieldsRun, -, checked, -⟩
  have kept := keptStructures_perm_of_generate distinct generated
  rw [ClassDescription.checkMethods_eq_ok_iff,
    map_name_methods_messageClass (mapM_resolve_of_emitFields fieldsRun)] at checked
  constructor
  case versions => exact versions_of_emitCommons commonsRun
  case fields => exact (fieldsValid_iff.mp (fieldsValid_of_generate generated)).1
  case valid =>
    intro definition definition_mem
    have fields_mem := (Document.inside_subset_of_mem_definitions definition_mem).2
      List.mem_cons_self
    rcases fieldsValid_or_of_generate generated fields_mem with valid | ⟨other, isPassed, -⟩
    · exact valid
    · rw [Document.passedOver_eq_nil distinct] at isPassed
      cases isPassed
  case named =>
    intro name named
    rcases List.mem_filterMap.mp named with ⟨field, field_mem, names⟩
    have isClass : name ∈ output.structures.map (·.className) := by
      rcases List.mem_append.mp field_mem with inFields | inDefinition
      · exact mem_className_of_structureName? generated List.mem_cons_self inFields names
      · rcases List.mem_flatMap.mp inDefinition with ⟨definition, definition_mem, field_mem⟩
        refine mem_className_of_structureName? generated ?_ field_mem names
        exact List.mem_cons_of_mem _ (List.mem_map_of_mem (kept.mem_iff.mpr definition_mem))
    rw [classNames] at isClass
    exact (kept.map _).subset isClass
  case methods => exact checked.1
  case notFinal => exact checked.2

/-- If nothing is wrong, all references lead to definitions, and these are recorded. -/
theorem checkReferences_of_isSound (distinct : message.document.declaredNames.Nodup)
    (sound : message.IsSound) {afterCommons : StructureRegistry} {fields : List ResolvedField}
    (commonsRun : (emitCommons message.context message.document.commonStructures).runWith ∅ =
      (.ok (), afterCommons))
    (fieldsRun : (emitFields message.context message.document.fields).runWith afterCommons =
      (.ok fields, registry)) :
    registry.checkReferences = .ok () := by
  rw [StructureRegistry.checkReferences_eq_ok_iff]
  intro reference reference_mem
  have named : reference.structureName ∈ message.document.namedStructures := by
    rcases references_of_emitFields fieldsRun reference reference_mem with before | named
    · rcases references_of_emitCommons commonsRun reference before with
        none | ⟨common, common_mem, named⟩
      · cases none
      · exact Document.namedStructures_common_subset common_mem named
    · exact Document.namedStructures_fields_subset named
  rcases List.mem_map.mp (sound.named _ named) with ⟨definition, definition_mem, sameName⟩
  rw [(accounts_of_run commonsRun fieldsRun).contains_eq_isKept, ← sameName]
  exact isKept_of_run distinct commonsRun fieldsRun definition_mem

theorem exists_output_of_isSound (distinct : message.document.declaredNames.Nodup)
    (sound : message.IsSound) : ∃ output, message.generate = .ok output := by
  have valid := sound.valid
  simp only [Document.definitions, List.mem_append] at valid
  rcases exists_run_emitCommons sound.versions
    (fun definition inCommons => valid definition (Or.inl inCommons)) ∅ with
    ⟨afterCommons, commonsRun⟩
  rcases exists_run_emitFields message.document.fields sound.fields
    (fun definition inFields => valid definition (Or.inr inFields)) afterCommons with
    ⟨fields, registry, fieldsRun⟩
  have references := checkReferences_of_isSound distinct sound commonsRun fieldsRun
  have methods : (message.messageClass message.context fields).checkMethods = .ok () := by
    rw [ClassDescription.checkMethods_eq_ok_iff,
      map_name_methods_messageClass (mapM_resolve_of_emitFields fieldsRun)]
    exact ⟨sound.methods, sound.notFinal⟩
  exact ⟨_, generate_eq_ok_iff.mpr
    ⟨afterCommons, fields, registry, commonsRun, fieldsRun, references, methods, rfl⟩⟩

/-- Without names that are defined twice, a run succeeds exactly if nothing is wrong. -/
theorem exists_output_iff (distinct : message.document.declaredNames.Nodup) :
    (∃ output, message.generate = .ok output) ↔ message.IsSound := by
  constructor
  · rintro ⟨output, generated⟩
    exact isSound_of_generate distinct generated
  · exact exists_output_of_isSound distinct

end ResolvedMessage

end MessageGen
