import MessageGen.Proofs.Structure.Calls
import MessageGen.Proofs.Structure.Coverage

/-!
# Runs that succeed

If nothing is wrong with the fields of a list and of the definitions inside it, a run over
the list succeeds, whatever the registry holds. The references that it leaves come from
these fields.
-/

namespace MessageGen

variable {context : ClassContext} {registry final : StructureRegistry} {name : String}
  {versions : VersionSet} {fields : List Field} {resolvedFields : List ResolvedField}

/-- Each field resolves, and has fields of its own only if its type names a structure. -/
def FieldsResolve (context : ClassContext) (fields : List Field) : Prop :=
  ∀ field ∈ fields, (ResolvedField.resolve context field.toFieldAttributes).isOk = true ∧
    (field.fields.isSome → field.structureName?.isSome)

section Success

theorem exists_run_emitStructure
    (inside : ∀ registry, ∃ resolvedFields final,
      (emitFields context fields).runWith registry = (.ok resolvedFields, final))
    (distinct : HasDistinctAccessors fields) (name : String) (versions : VersionSet)
    (registry : StructureRegistry) :
    ∃ final, (emitStructure context name versions (emitFields context fields)).runWith registry =
      (.ok (), final) := by
  cases recorded : registry.contains name with
  | true => exact ⟨registry, runWith_emitStructure_of_recorded recorded⟩
  | false =>
      rcases inside registry with ⟨resolvedFields, middle, run⟩
      have checked : (structureClass context name versions resolvedFields).checkMethods = .ok () :=
        (checkMethods_structureClass_eq_ok_iff (mapM_resolve_of_emitFields run)).mpr distinct
      rw [runWith_emitStructure_of_new recorded, run]
      simp only [checked]
      exact ⟨_, rfl⟩

/-- A run over a list of fields succeeds if the fields and the definitions inside are valid. -/
theorem exists_run_emitFields (fields : List Field) (resolve : FieldsResolve context fields)
    (valid : ∀ definition ∈ definitionsWithin fields, FieldsValid context definition.fields)
    (registry : StructureRegistry) :
    ∃ resolvedFields final,
      (emitFields context fields).runWith registry = (.ok resolvedFields, final) := by
  -- Registries vary: each field starts with what the fields before it have recorded.
  induction fields using Field.definition_induction generalizing registry with
  | nil => exact ⟨[], registry, rfl⟩
  | plain attributes fields ih =>
      rcases List.forall_mem_cons.mp resolve with ⟨⟨resolves, -⟩, resolve⟩
      rcases Except.exists_ok_of_isOk resolves with ⟨resolved, hasResolved⟩
      have nested : ∃ middle, (emitNested context attributes resolved none).runWith registry =
          (.ok (), middle) := ⟨_, emitNested_none_eq_ok_iff.mpr rfl⟩
      rcases nested with ⟨middle, nested⟩
      rcases ih resolve valid middle with ⟨rest, final, continued⟩
      exact ⟨resolved :: rest, final, emitFields_cons_eq_ok_iff.mpr
        ⟨resolved, middle, rest, hasResolved, nested, continued, rfl⟩⟩
  | unnamed attributes inner fields noName ihInner ih =>
      have hasName := (resolve _ List.mem_cons_self).2 rfl
      rw [noName] at hasName
      cases hasName
  | named attributes inner fields name hasName ihInner ih =>
      rcases List.forall_mem_cons.mp resolve with ⟨⟨resolves, -⟩, resolve⟩
      rcases Except.exists_ok_of_isOk resolves with ⟨resolved, hasResolved⟩
      simp only [definitionsWithin_named hasName, List.mem_append, CommonStructure.definitions,
        List.mem_cons] at valid
      have innerValid := fieldsValid_iff.mp (valid _ (Or.inl (Or.inl rfl)))
      have innerRun := ihInner innerValid.1 fun definition definition_mem =>
        valid definition (Or.inl (Or.inr definition_mem))
      rcases exists_run_emitStructure innerRun innerValid.2 name resolved.versions registry with
        ⟨middle, made⟩
      rcases ih resolve (fun definition definition_mem => valid definition (Or.inr definition_mem))
        middle with ⟨rest, final, continued⟩
      have nested : (emitNested context attributes resolved (some inner)).runWith registry =
          (.ok (), middle) := emitNested_some_eq_ok_iff.mpr
        ⟨name, (structureName?_of_resolve hasResolved).symm.trans hasName, made⟩
      exact ⟨resolved :: rest, final, emitFields_cons_eq_ok_iff.mpr
        ⟨resolved, middle, rest, hasResolved, nested, continued, rfl⟩⟩

end Success

section References

/-- The structures that are named by fields and by the fields of the definitions inside them. -/
def namedStructures (fields : List Field) : List String :=
  (fields ++ (definitionsWithin fields).flatMap (·.fields)).filterMap (·.structureName?)

theorem mem_namedStructures_plain {attributes : FieldAttributes} :
    name ∈ namedStructures (⟨attributes, none⟩ :: fields) ↔
      attributes.structureName? = some name ∨ name ∈ namedStructures fields := by
  have sameDefinitions : definitionsWithin (⟨attributes, none⟩ :: fields) =
      definitionsWithin fields := rfl
  simp only [namedStructures, sameDefinitions, List.cons_append, List.mem_filterMap,
    List.mem_cons, exists_eq_or_imp]

theorem mem_namedStructures_named {attributes : FieldAttributes} {inner : List Field}
    {structureName : String} (hasName : attributes.structureName? = some structureName) :
    name ∈ namedStructures (⟨attributes, some inner⟩ :: fields) ↔
      name = structureName ∨ name ∈ namedStructures inner ∨ name ∈ namedStructures fields := by
  simp only [namedStructures, definitionsWithin_named hasName, CommonStructure.definitions,
    List.cons_append, List.flatMap_cons, List.flatMap_append, List.filterMap_append,
    List.filterMap_cons, hasName, List.mem_append, List.mem_cons]
  tauto

theorem references_of_emitStructure
    (inside : ∀ {registry final resolvedFields},
      (emitFields context fields).runWith registry = (.ok resolvedFields, final) →
        ∀ reference ∈ final.references,
          reference ∈ registry.references ∨ reference.structureName ∈ namedStructures fields)
    (run : (emitStructure context name versions (emitFields context fields)).runWith registry =
      (.ok (), final)) :
    ∀ reference ∈ final.references,
      reference ∈ registry.references ∨ reference.structureName ∈ namedStructures fields := by
  rcases emitStructure_eq_ok_iff.mp run with ⟨-, rfl⟩ | ⟨-, _, middle, innerRun, -, rfl⟩
  · exact fun reference reference_mem => Or.inl reference_mem
  · rw [StructureRegistry.references_record]
    exact inside innerRun

/-- References come from the fields of a list and of the definitions inside it. -/
theorem references_of_emitFields (run : (emitFields context fields).runWith registry =
    (.ok resolvedFields, final)) :
    ∀ reference ∈ final.references,
      reference ∈ registry.references ∨ reference.structureName ∈ namedStructures fields := by
  induction fields using Field.list_induction generalizing registry final resolvedFields with
  | nil =>
      cases run
      exact fun reference reference_mem => Or.inl reference_mem
  | plain attributes fields ih =>
      rcases emitFields_cons_eq_ok_iff.mp run with
        ⟨resolved, middle, rest, hasResolved, nested, continued, -⟩
      rw [emitNested_none_eq_ok_iff, ← structureName?_of_resolve hasResolved] at nested
      intro reference reference_mem
      rw [mem_namedStructures_plain]
      rcases ih continued reference reference_mem with before | named
      · cases hasName : attributes.structureName? with
        | none =>
            rw [hasName] at nested
            cases nested
            exact Or.inl before
        | some structureName =>
            rw [hasName] at nested
            cases nested
            refine (StructureRegistry.mem_of_mem_references_require before).imp_right ?_
            rintro rfl
            exact Or.inl rfl
      · exact Or.inr (Or.inr named)
  | nested attributes inner fields ihInner ih =>
      rcases exists_emitStructure_of_emitFields run with
        ⟨structureName, versions, middle, rest, hasName, -, made, continued⟩
      intro reference reference_mem
      rw [mem_namedStructures_named hasName]
      rcases ih continued reference reference_mem with before | named
      · exact (references_of_emitStructure ihInner made reference before).imp_right
          fun named => Or.inr (Or.inl named)
      · exact Or.inr (Or.inr (Or.inr named))

end References

end MessageGen
