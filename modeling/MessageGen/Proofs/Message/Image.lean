import MessageGen.Proofs.Structure.Image
import MessageGen.Proofs.Structure.Replay

/-!
# Classes of a run as images of their fields

The class of a message is made from its fields and its kind alone. A registry can make a
run fail, but it cannot change the class that a run makes. What the run adds to it are
the classes of structures, each of them made from the fields of its definition.
-/

namespace MessageGen

open Emission

section Definitions

variable {context : ClassContext} {registry final : StructureRegistry} {file : GeneratedFile}
  {name : String} {versions : VersionSet} {fields : List Field} {definition : CommonStructure}

theorem GeneratedFile.IsOfDefinition.className_eq (isOf : file.IsOfDefinition context definition) :
    file.className = definition.name := by
  rcases isOf with ⟨_, -, _, -, -, rfl⟩
  rfl

/-- A structure that is made has a class, its own or that of an inner one with the same name. -/
theorem exists_file_of_emitDefinition
    (run : (emitDefinition context name fields versions).runWith registry = (.ok (), final))
    (isNew : registry.contains name = false) :
    ∃ file ∈ final.files, file.className = name ∧
      (file.IsStructureOf context name versions fields ∨
        ∃ definition ∈ definitionsWithin fields, definition.name = name ∧
          file.IsOfDefinition context definition) := by
  have recorded := contains_of_emitDefinition run
  rw [StructureRegistry.contains_iff_mem] at recorded
  rcases List.mem_map.mp recorded with ⟨file, file_mem, rfl⟩
  have added := addsOnly_emitDefinition context file.className fields versions registry file
  rw [run] at added
  refine ⟨file, file_mem, rfl, ?_⟩
  rcases added file_mem with before | isOwn | ⟨definition, inside, isOf⟩
  · have contained := StructureRegistry.contains_iff_mem.mpr (List.mem_map_of_mem before)
    rw [isNew] at contained
    cases contained
  · exact .inl isOwn
  · exact .inr ⟨definition, inside, isOf.className_eq.symm, isOf⟩

end Definitions

namespace ResolvedMessage

variable {message : ResolvedMessage} {context : ClassContext}
  {registry final otherRegistry otherFinal : StructureRegistry}
  {description otherDescription : ClassDescription}

theorem addsClassesOf_emitCommons (context : ClassContext) (commons : List CommonStructure) :
    (emitCommons context commons).AddsClassesOf context
      (commons.flatMap CommonStructure.definitions) := by
  induction commons with
  | nil => exact addsOnly_of_files fun registry => rfl
  | cons common commons ih =>
      rw [List.flatMap_cons]
      unfold emitCommons
      apply AddsOnly.bind
      case adds =>
        exact (addsClassesOf_emitCommon context common).mono (List.subset_append_left _ _)
      case continues =>
        intro _ _ _ _
        exact ih.mono (List.subset_append_right _ _)

theorem addsClassesOf_emitMessage (message : ResolvedMessage) (context : ClassContext) :
    (message.emitMessage context).AddsClassesOf context message.document.definitions := by
  unfold emitMessage
  apply AddsOnly.bind
  case adds =>
    apply (addsClassesOf_emitCommons context message.document.commonStructures).mono
    exact List.subset_append_left _ _
  case continues =>
    intro _ _ _ _
    apply AddsOnly.bind
    case adds =>
      apply (addsClassesOf_emitFields context message.document.fields).mono
      exact List.subset_append_right _ _
    case continues =>
      intro _ fields _ _
      -- Checks do not change the registry.
      apply addsOnly_of_files
      intro registry
      simp only [runWith_bind, runWith_get, runWith_ofExcept]
      cases registry.checkReferences with
      | error error => rfl
      | ok => cases (message.messageClass context fields).checkMethods <;> rfl

theorem exists_fields_of_emitMessage
    (run : (message.emitMessage context).runWith registry = (.ok description, final)) :
    ∃ fields, (message.document.fields.mapM fun field =>
        ResolvedField.resolve context field.toFieldAttributes) = .ok fields ∧
      message.messageClass context fields = description := by
  rcases emitMessage_eq_ok_iff.mp run with ⟨_, fields, -, fieldsRun, -, -, isClass⟩
  exact ⟨fields, mapM_resolve_of_emitFields fieldsRun, isClass⟩

/-- What a registry holds before a run makes no difference to the class of the message. -/
theorem emitMessage_unique
    (run : (message.emitMessage context).runWith registry = (.ok description, final))
    (otherRun : (message.emitMessage context).runWith otherRegistry =
      (.ok otherDescription, otherFinal)) :
    description = otherDescription := by
  rcases exists_fields_of_emitMessage run with ⟨fields, resolved, rfl⟩
  rcases exists_fields_of_emitMessage otherRun with ⟨otherFields, otherResolved, rfl⟩
  cases resolved.symm.trans otherResolved
  rfl

/--
A class is the image of its fields. A run that succeeds, on any registry, makes the class
of the message from the fields that the document lists: a member and a statement of the
constructor for each, then a getter and a setter for each, and the methods of its kind,
which are the only overrides. Its imports are the base class, the list class and what its
fields need. Runs on two registries make one class. All files that a run adds, also if it
fails, hold structure classes that are images of the fields of definitions in the document.
To make a structure adds its class and those of definitions inside it; if it succeeds, the
class is there, unless its name was recorded before or inside it.
-/
theorem classes_are_images (message : ResolvedMessage) (context : ClassContext) :
    (∀ registry description final,
      (message.emitMessage context).runWith registry = (.ok description, final) →
        ∃ fields, (message.document.fields.mapM fun field =>
            ResolvedField.resolve context field.toFieldAttributes) = .ok fields ∧
          description.IsImageOf context message.validVersions fields message.kind.baseClass
            ["java.util.List"] message.kindMethods) ∧
    (∀ registry description final otherRegistry otherDescription otherFinal,
      (message.emitMessage context).runWith registry = (.ok description, final) →
      (message.emitMessage context).runWith otherRegistry = (.ok otherDescription, otherFinal) →
        description = otherDescription) ∧
    (message.emitMessage context).AddsClassesOf context message.document.definitions ∧
    ∀ name fields versions,
      ((emitDefinition context name fields versions).AddsOnly fun file =>
        file.IsStructureOf context name versions fields ∨
          ∃ definition ∈ definitionsWithin fields, file.IsOfDefinition context definition) ∧
      ∀ registry final,
        (emitDefinition context name fields versions).runWith registry = (.ok (), final) →
        registry.contains name = false →
          ∃ file ∈ final.files, file.className = name ∧
            (file.IsStructureOf context name versions fields ∨
              ∃ definition ∈ definitionsWithin fields, definition.name = name ∧
                file.IsOfDefinition context definition) := by
  refine ⟨?_, ?_, addsClassesOf_emitMessage message context, ?_⟩
  · intro registry description final run
    rcases exists_fields_of_emitMessage run with ⟨fields, resolved, rfl⟩
    exact ⟨fields, resolved, isImageOf_messageClass message context fields⟩
  · intro _ _ _ _ _ _ run otherRun
    exact emitMessage_unique run otherRun
  · intro name fields versions
    refine ⟨addsOnly_emitDefinition context name fields versions, ?_⟩
    intro registry final run isNew
    exact exists_file_of_emitDefinition run isNew

/-- A common structure with an array. -/
def shelfStructure : CommonStructure :=
  ⟨"Shelf", "0+", [.declaring "Codes" "[]uuid" none]⟩

/-- A request with an array of common structures and a structure in a field. -/
def catalogRequest : Document where
  name := "CatalogRequest"
  type := "request"
  apiKey := 6
  validVersions := "0-2"
  flexibleVersions := none
  commonStructures := [shelfStructure]
  fields := [.declaring "Shelves" "[]Shelf" none,
    .declaring "Owner" "Person" (some [.declaring "Label" "string" none])]

/-- A registry that holds another class under the name of the common structure. -/
def shelvedRegistry : StructureRegistry :=
  ⟨[⟨⟨"Shelf.java"⟩, "Shelf", "final class Shelf"⟩], []⟩

theorem classes_are_images_catalog : ∃ message description final otherFinal made,
    resolve catalogRequest .standard = .ok message ∧
    (message.emitMessage message.context).runWith ∅ = (.ok description, final) ∧
    (message.emitMessage message.context).runWith shelvedRegistry =
      (.ok description, otherFinal) ∧
    description.members.length = 2 ∧ "java.util.ArrayList" ∈ description.imports ∧
    (emitDefinition message.context "Shelf" shelfStructure.fields message.validVersions).runWith
      ∅ = (.ok (), made) ∧
    ∃ file ∈ made.files, file.className = "Shelf" := by
  have outcome : ((resolve catalogRequest .standard).toOption.map fun message =>
      (((message.emitMessage message.context).runWith ∅).1.isOk,
        ((message.emitMessage message.context).runWith shelvedRegistry).1.isOk,
        ((emitDefinition message.context "Shelf" shelfStructure.fields
          message.validVersions).runWith ∅).1.isOk,
        (message.document.fields.mapM fun field => ResolvedField.resolve message.context
          field.toFieldAttributes).toOption.map fun fields =>
            fields.map fun field => field.type.arrayDepth)) =
      some (true, true, true, some [1, 0]) := by
    decide +kernel
  rcases Except.exists_ok_of_map_toOption outcome with ⟨message, resolved, computed⟩
  simp only [Prod.mk.injEq] at computed
  rcases computed with ⟨succeeds, otherSucceeds, makes, depths⟩
  rcases classes_are_images message message.context with ⟨image, unique, -, definitions⟩
  rcases exists_run_of_isOk succeeds with ⟨description, final, run⟩
  rcases exists_run_of_isOk otherSucceeds with ⟨_, otherFinal, otherRun⟩
  rcases exists_run_of_isOk makes with ⟨_, made, madeRun⟩
  cases unique _ _ _ _ _ _ run otherRun
  rcases image _ _ _ run with ⟨fields, fieldsResolved, isImage⟩
  rcases (definitions _ _ _).2 _ _ madeRun rfl with ⟨file, file_mem, isShelf, -⟩
  simp only [fieldsResolved, Except.toOption, Option.map_some, Option.some.injEq] at depths
  refine ⟨message, description, final, otherFinal, made, resolved, run, otherRun, ?_, ?_, madeRun,
    file, file_mem, isShelf⟩
  · rw [isImage.members, List.length_map]
    simpa using congrArg List.length depths
  · have hasArray : 1 ∈ fields.map fun field => field.type.arrayDepth := by
      simp [depths]
    rcases List.mem_map.mp hasArray with ⟨field, field_mem, isArray⟩
    apply (isImage.mem_imports_iff _).mpr
    exact .inr (.inr (.inr (.inl ⟨field, field_mem, by simp [isArray], .inl rfl⟩)))

end ResolvedMessage

end MessageGen
