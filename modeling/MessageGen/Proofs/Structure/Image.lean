import MessageGen.Proofs.Class.Image
import MessageGen.Proofs.Structure.Files

/-!
# Structure classes as images of their fields

What a run adds to a registry, also one that fails, are files of structure classes. Each
class is the image of the fields of one definition, and of no others: what is made inside
a structure and what was recorded before leave no trace in it.
-/

namespace MessageGen

open Emission

/-- A file holds the class of a structure with the given versions and fields. -/
def GeneratedFile.IsStructureOf (file : GeneratedFile) (context : ClassContext) (name : String)
    (versions : VersionSet) (fields : List Field) : Prop :=
  ∃ resolved,
    (fields.mapM fun field => ResolvedField.resolve context field.toFieldAttributes) =
      .ok resolved ∧
    (structureClass context name versions resolved).IsImageOf context versions resolved
      structureBaseClass [] [] ∧
    file = ⟨context.filePath name, name, (structureClass context name versions resolved).source⟩

/-- A file holds the class of a definition, in the valid versions that the definition is for. -/
def GeneratedFile.IsOfDefinition (file : GeneratedFile) (context : ClassContext)
    (definition : CommonStructure) : Prop :=
  ∃ versions, ResolvedField.resolveWithin context definition.versions context.validVersions =
      .ok versions ∧
    file.IsStructureOf context definition.name versions definition.fields

/-- Every file that a step adds to a registry has a property, also if the step fails. -/
def Emission.AddsOnly {α : Type} (emission : Emission α) (property : GeneratedFile → Prop) : Prop :=
  ∀ registry, ∀ file ∈ (emission.runWith registry).2.files, file ∈ registry.files ∨ property file

/-- Every file that a step adds holds the class of one of the given definitions. -/
def Emission.AddsClassesOf {α : Type} (emission : Emission α) (context : ClassContext)
    (definitions : List CommonStructure) : Prop :=
  emission.AddsOnly fun file => ∃ definition ∈ definitions, file.IsOfDefinition context definition

namespace Emission

variable {α β : Type} {emission : Emission α} {property weaker : GeneratedFile → Prop}

theorem addsOnly_of_files
    (keeps : ∀ registry, (emission.runWith registry).2.files = registry.files) :
    emission.AddsOnly property := by
  intro registry file file_mem
  rw [keeps] at file_mem
  exact .inl file_mem

theorem addsOnly_ofExcept (result : Except GenerationError α) :
    (ofExcept result).AddsOnly property := by
  apply addsOnly_of_files
  simp

theorem addsOnly_record {file : GeneratedFile} (holds : property file) :
    (modify (·.record file) : Emission Unit).AddsOnly property := by
  intro registry other other_mem
  simp only [runWith_modify, StructureRegistry.record] at other_mem
  split at other_mem
  · exact .inl other_mem
  · rcases List.mem_append.mp other_mem with old | isNew
    · exact .inl old
    · rw [List.mem_singleton.mp isNew]
      exact .inr holds

theorem AddsOnly.mono (adds : emission.AddsOnly property)
    (implies : ∀ file, property file → weaker file) : emission.AddsOnly weaker := by
  intro registry file file_mem
  exact (adds registry file file_mem).imp_right (implies file)

theorem AddsClassesOf.mono {context : ClassContext} {definitions more : List CommonStructure}
    (adds : emission.AddsClassesOf context definitions) (isSubset : definitions ⊆ more) :
    emission.AddsClassesOf context more := by
  apply AddsOnly.mono adds
  rintro file ⟨definition, definition_mem, isOfDefinition⟩
  exact ⟨definition, isSubset definition_mem, isOfDefinition⟩

/-- The steps of a sequence add what each of them adds, given the values of those before it. -/
theorem AddsOnly.bind {next : α → Emission β} (adds : emission.AddsOnly property)
    (continues : ∀ registry value middle, emission.runWith registry = (.ok value, middle) →
      (next value).AddsOnly property) : (emission >>= next).AddsOnly property := by
  intro registry file file_mem
  have first := adds registry file
  rw [runWith_bind] at file_mem
  rcases run : emission.runWith registry with ⟨error | value, middle⟩
  · simp only [run] at file_mem first
    exact first file_mem
  · simp only [run] at file_mem first
    rcases continues registry value middle run middle file file_mem with before | holds
    · exact first before
    · exact .inr holds

end Emission

section Steps

variable {context : ClassContext} {name : String} {versions : VersionSet} {fields : List Field}
  {property : GeneratedFile → Prop}

theorem addsOnly_emitStructure (inside : (emitFields context fields).AddsOnly property)
    (own : ∀ file : GeneratedFile, file.IsStructureOf context name versions fields →
      property file) :
    (emitStructure context name versions (emitFields context fields)).AddsOnly property := by
  unfold emitStructure
  apply AddsOnly.bind (addsOnly_of_files fun registry => rfl)
  intro _ registry _ _
  split
  · exact addsOnly_of_files fun registry => rfl
  · apply inside.bind
    intro _ resolved _ run
    apply (addsOnly_ofExcept _).bind
    intro _ _ _ _
    apply addsOnly_record
    apply own
    exact ⟨resolved, mapM_resolve_of_emitFields run, isImageOf_structureClass _ _ _ _, rfl⟩

theorem addsOnly_emitField {attributes : FieldAttributes} {inner : Option (List Field)}
    (made : ∀ innerFields ∈ inner, ∀ structureName structureVersions,
      attributes.structureName? = some structureName →
      ResolvedField.resolveWithin context attributes.versions context.validVersions =
        .ok structureVersions →
      (emitStructure context structureName structureVersions
        (emitFields context innerFields)).AddsOnly property) :
    (emitField context ⟨attributes, inner⟩).AddsOnly property := by
  unfold emitField
  apply (addsOnly_ofExcept _).bind
  intro registry resolved _ hasResolved
  rw [runWith_ofExcept, Prod.mk.injEq] at hasResolved
  apply AddsOnly.bind
  case continues =>
    intro _ _ _ _
    exact addsOnly_of_files fun registry => rfl
  case adds =>
    unfold emitNested
    rcases inner with _ | innerFields
    · cases resolved.type.structureName? with
      | none => exact addsOnly_of_files fun registry => rfl
      | some structureName =>
          apply addsOnly_of_files
          simp
    · cases hasName : resolved.type.structureName? with
      | none => exact addsOnly_of_files fun registry => rfl
      | some structureName =>
          rw [← structureName?_of_resolve hasResolved.1] at hasName
          exact made innerFields rfl structureName resolved.versions hasName
            (versions_of_resolve hasResolved.1)

theorem addsOnly_emitFields_cons {field : Field}
    (first : (emitField context field).AddsOnly property)
    (rest : (emitFields context fields).AddsOnly property) :
    (emitFields context (field :: fields)).AddsOnly property := by
  unfold emitFields
  apply first.bind
  intro _ _ _ _
  apply rest.bind
  intro _ _ _ _
  exact addsOnly_of_files fun registry => rfl

/-- A run over fields adds the classes of definitions inside them. -/
theorem addsClassesOf_emitFields (context : ClassContext) (fields : List Field) :
    (emitFields context fields).AddsClassesOf context (definitionsWithin fields) := by
  induction fields using Field.definition_induction with
  | nil => exact addsOnly_of_files fun registry => rfl
  | plain attributes fields ih =>
      apply addsOnly_emitFields_cons _ ih
      exact addsOnly_emitField fun innerFields absent => by cases absent
  | unnamed attributes inner fields noName ihInner ih =>
      rw [definitionsWithin_unnamed noName]
      apply addsOnly_emitFields_cons
      case first =>
        apply addsOnly_emitField
        intro _ _ structureName _ hasName
        cases noName.symm.trans hasName
      case rest => exact ih.mono (List.subset_append_right _ _)
  | named attributes inner fields name hasName ihInner ih =>
      rw [definitionsWithin_named hasName]
      apply addsOnly_emitFields_cons
      case first =>
        apply addsOnly_emitField
        rintro _ ⟨⟩ _ structureVersions hasOther hasVersions
        cases hasName.symm.trans hasOther
        apply addsOnly_emitStructure
        case inside =>
          apply ihInner.mono
          intro definition inside
          exact List.mem_append_left _ (List.mem_cons_of_mem _ inside)
        case own =>
          intro file isOwn
          refine ⟨⟨name, attributes.versions, inner⟩, ?_, structureVersions, hasVersions, isOwn⟩
          exact List.mem_append_left _ List.mem_cons_self
      case rest => exact ih.mono (List.subset_append_right _ _)

/-- What making a structure adds is its own class, or that of a definition inside its fields. -/
theorem addsOnly_emitDefinition (context : ClassContext) (name : String) (fields : List Field)
    (versions : VersionSet) :
    (emitDefinition context name fields versions).AddsOnly fun file =>
      file.IsStructureOf context name versions fields ∨
        ∃ definition ∈ definitionsWithin fields, file.IsOfDefinition context definition := by
  apply addsOnly_emitStructure
  case inside =>
    apply AddsOnly.mono (addsClassesOf_emitFields context fields)
    exact fun _ isInside => .inr isInside
  case own => exact fun _ isOwn => .inl isOwn

theorem addsClassesOf_emitCommon (context : ClassContext) (common : CommonStructure) :
    (emitCommon context common).AddsClassesOf context common.definitions := by
  unfold emitCommon
  apply (addsOnly_ofExcept _).bind
  intro _ versions _ hasVersions
  rw [runWith_ofExcept, Prod.mk.injEq] at hasVersions
  apply (addsOnly_emitDefinition context common.name common.fields versions).mono
  rintro file (isOwn | ⟨definition, definition_mem, isOfDefinition⟩)
  · exact ⟨common, List.mem_cons_self, versions, hasVersions.1, isOwn⟩
  · exact ⟨definition, List.mem_cons_of_mem _ definition_mem, isOfDefinition⟩

end Steps

end MessageGen
