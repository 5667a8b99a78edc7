import MessageGen.Proofs.Message.Agreement
import MessageGen.Proofs.Message.Success

/-!
# Documents in another order

The order of the common structures and of the fields of a message decides which definition
of a name is kept, and nothing else but the order of what is made. Without names that are
defined twice, a document and a rearrangement of it both succeed or both fail, and the
structures have the same files.
-/

namespace MessageGen

open CommonStructure

section Lists

variable {fields others : List Field}

theorem nestedFields_eq_flatMap (fields : List Field) :
    nestedFields fields = fields.flatMap nestedField := by
  induction fields with
  | nil => rfl
  | cons field fields ih => rw [nestedFields, ih, List.flatMap_cons]

theorem definitionsWithin_perm (perm : fields.Perm others) :
    (definitionsWithin fields).Perm (definitionsWithin others) := by
  rw [definitionsWithin, definitionsWithin, nestedFields_eq_flatMap, nestedFields_eq_flatMap]
  exact (perm.flatMap_right _).filterMap _

theorem methodNames_perm (perm : fields.Perm others) :
    (methodNames fields).Perm (methodNames others) :=
  perm.flatMap_right _

end Lists

namespace Document

variable {document : Document} {commons : List CommonStructure} {fields : List Field}

/-- A document with other common structures and fields. -/
def rearranged (document : Document) (commons : List CommonStructure) (fields : List Field) :
    Document :=
  { document with commonStructures := commons, fields := fields }

variable (commonsPerm : commons.Perm document.commonStructures)
  (fieldsPerm : fields.Perm document.fields)

include commonsPerm fieldsPerm

theorem definitions_rearranged_perm :
    (document.rearranged commons fields).definitions.Perm document.definitions :=
  (commonsPerm.flatMap_right _).append (definitionsWithin_perm fieldsPerm)

theorem declaredNames_rearranged_perm :
    (document.rearranged commons fields).declaredNames.Perm document.declaredNames :=
  (definitions_rearranged_perm commonsPerm fieldsPerm).map _

theorem namedStructures_rearranged_perm :
    (document.rearranged commons fields).namedStructures.Perm document.namedStructures :=
  (fieldsPerm.append
    ((definitions_rearranged_perm commonsPerm fieldsPerm).flatMap_right _)).filterMap _

end Document

namespace ResolvedMessage

variable {document : Document} {settings : Settings} {message : ResolvedMessage}
  {commons : List CommonStructure} {fields : List Field} {output otherOutput : GenerationOutput}

/-- A message of a document with other common structures and fields. -/
def rearranged (message : ResolvedMessage) (commons : List CommonStructure)
    (fields : List Field) : ResolvedMessage :=
  { message with document := message.document.rearranged commons fields }

/-- Resolving a document does not look at its structures and fields. -/
theorem resolve_rearranged (document : Document) (settings : Settings)
    (commons : List CommonStructure) (fields : List Field) :
    resolve (document.rearranged commons fields) settings =
      (·.rearranged commons fields) <$> resolve document settings := by
  simp only [resolve_eq, map_bind, map_pure]
  rfl

theorem IsSound.rearranged (sound : message.IsSound)
    (commonsPerm : commons.Perm message.document.commonStructures)
    (fieldsPerm : fields.Perm message.document.fields) :
    (message.rearranged commons fields).IsSound := by
  have definitions := Document.definitions_rearranged_perm commonsPerm fieldsPerm
  have names := Document.namedStructures_rearranged_perm commonsPerm fieldsPerm
  have methods : (methodNames fields ++ message.kindMethodNames).Perm
      (methodNames message.document.fields ++ message.kindMethodNames) :=
    (methodNames_perm fieldsPerm).append_right _
  constructor
  case versions =>
    intro common common_mem
    exact sound.versions common (commonsPerm.mem_iff.mp common_mem)
  case fields =>
    intro field field_mem
    exact sound.fields field (fieldsPerm.mem_iff.mp field_mem)
  case valid =>
    intro definition definition_mem
    exact sound.valid definition (definitions.mem_iff.mp definition_mem)
  case named =>
    intro name name_mem
    have isDeclared := sound.named name (names.mem_iff.mp name_mem)
    exact (Document.declaredNames_rearranged_perm commonsPerm fieldsPerm).mem_iff.mpr isDeclared
  case methods => exact methods.nodup_iff.mpr sound.methods
  case notFinal => exact fun isFinal => sound.notFinal (methods.mem_iff.mp isFinal)

theorem rearranged_rearranged (message : ResolvedMessage) (commons : List CommonStructure)
    (fields : List Field) :
    (message.rearranged commons fields).rearranged message.document.commonStructures
      message.document.fields = message :=
  rfl

section Permutation

variable (distinct : message.document.declaredNames.Nodup)
  (commonsPerm : commons.Perm message.document.commonStructures)
  (fieldsPerm : fields.Perm message.document.fields)

include distinct commonsPerm fieldsPerm

theorem nodup_declaredNames_rearranged :
    (message.rearranged commons fields).document.declaredNames.Nodup :=
  (Document.declaredNames_rearranged_perm commonsPerm fieldsPerm).nodup_iff.mpr distinct

theorem exists_output_rearranged_iff :
    (∃ output, (message.rearranged commons fields).generate = .ok output) ↔
      ∃ output, message.generate = .ok output := by
  rw [exists_output_iff (nodup_declaredNames_rearranged distinct commonsPerm fieldsPerm),
    exists_output_iff distinct]
  constructor
  · intro sound
    rw [← rearranged_rearranged message commons fields]
    exact sound.rearranged commonsPerm.symm fieldsPerm.symm
  · exact fun sound => sound.rearranged commonsPerm fieldsPerm

theorem structures_rearranged_perm (generated : message.generate = .ok output)
    (otherGenerated : (message.rearranged commons fields).generate = .ok otherOutput) :
    output.structures.Perm otherOutput.structures := by
  have otherDistinct := nodup_declaredNames_rearranged distinct commonsPerm fieldsPerm
  have kept := keptStructures_perm_of_generate distinct generated
  have otherKept := keptStructures_perm_of_generate otherDistinct otherGenerated
  have definitions := Document.definitions_rearranged_perm commonsPerm fieldsPerm
  -- The runs keep what is defined in orders of their own, but both keep all of it.
  exact Except.perm_of_mapM (kept.trans (otherKept.trans definitions).symm)
    (mapM_classFile_of_generate generated) (mapM_classFile_of_generate otherGenerated)

end Permutation

theorem message_of_generate (generated : message.generate = .ok output) :
    ∃ fields, (message.document.fields.mapM fun field =>
        ResolvedField.resolve message.context field.toFieldAttributes) = .ok fields ∧
      output.message = message.messageFile fields := by
  rcases generate_eq_ok_iff.mp generated with ⟨_, fields, _, -, fieldsRun, -, -, rfl⟩
  exact ⟨fields, mapM_resolve_of_emitFields fieldsRun, rfl⟩

/-- The file of a message does not depend on the order of the common structures. -/
theorem message_rearranged_eq (generated : message.generate = .ok output)
    (otherGenerated : (message.rearranged commons message.document.fields).generate =
      .ok otherOutput) : output.message = otherOutput.message := by
  rcases message_of_generate generated with ⟨fields, resolved, isFile⟩
  rcases message_of_generate otherGenerated with ⟨otherFields, otherResolved, isOtherFile⟩
  cases resolved.symm.trans otherResolved
  exact isFile.trans isOtherFile.symm

theorem exists_run_rearranged_iff (distinct : document.declaredNames.Nodup)
    (commonsPerm : commons.Perm document.commonStructures)
    (fieldsPerm : fields.Perm document.fields) (settings : Settings) :
    (∃ run, resolveAndGenerate (document.rearranged commons fields) settings = .ok run) ↔
      ∃ run, resolveAndGenerate document settings = .ok run := by
  simp only [Prod.exists, resolveAndGenerate_eq_ok_iff, exists_and_left, resolve_rearranged]
  cases resolved : resolve document settings with
  | error error => simp
  | ok message =>
      rw [← document_of_resolve resolved] at distinct commonsPerm fieldsPerm
      have outputs := exists_output_rearranged_iff distinct commonsPerm fieldsPerm
      simpa using outputs

/--
Where no structure is defined twice, the order of a document matters little. With its common
structures and the fields of its message in another order, it has files exactly if it had them
before, and the structures have the same files, perhaps in another order. As long as the fields
stay in their order, the file of the message stays the same as well.
-/
theorem generate_rearranged (distinct : document.declaredNames.Nodup)
    (commonsPerm : commons.Perm document.commonStructures)
    (fieldsPerm : fields.Perm document.fields) (settings : Settings) :
    ((∃ run, resolveAndGenerate (document.rearranged commons fields) settings = .ok run) ↔
      ∃ run, resolveAndGenerate document settings = .ok run) ∧
    ∀ run otherRun, resolveAndGenerate document settings = .ok run →
      resolveAndGenerate (document.rearranged commons fields) settings = .ok otherRun →
      run.2.structures.Perm otherRun.2.structures ∧
        (fields = document.fields → run.2.message = otherRun.2.message) := by
  refine ⟨exists_run_rearranged_iff distinct commonsPerm fieldsPerm settings, ?_⟩
  rintro ⟨message, output⟩ ⟨otherMessage, otherOutput⟩ run otherRun
  rcases resolveAndGenerate_eq_ok_iff.mp run with ⟨resolved, generated⟩
  rcases resolveAndGenerate_eq_ok_iff.mp otherRun with ⟨otherResolved, otherGenerated⟩
  rw [resolve_rearranged, resolved] at otherResolved
  cases otherResolved
  rw [← document_of_resolve resolved] at distinct commonsPerm fieldsPerm ⊢
  refine ⟨structures_rearranged_perm distinct commonsPerm fieldsPerm generated otherGenerated, ?_⟩
  rintro rfl
  exact message_rearranged_eq generated otherGenerated

/-- A request with two common structures that name each other, and a structure in a field. -/
def orchardRequest : Document where
  name := "OrchardRequest"
  type := "request"
  apiKey := 4
  validVersions := "0-3"
  flexibleVersions := none
  commonStructures :=
    [treeStructure, ⟨"Leaf", "1+", [.declaring "Owner" "Tree" none]⟩]
  fields := [.declaring "Trees" "[]Tree" none,
    .declaring "Rows" "[]Row" (some [.declaring "First" "Tree" none])]

theorem generate_rearranged_orchard :
    orchardRequest.declaredNames = ["Tree", "Leaf", "Row"] ∧
    ∃ run otherRun, resolveAndGenerate orchardRequest .standard = .ok run ∧
      resolveAndGenerate (orchardRequest.rearranged orchardRequest.commonStructures.reverse
        orchardRequest.fields) .standard = .ok otherRun ∧
      run.2.structures.Perm otherRun.2.structures ∧ run.2.message = otherRun.2.message := by
  have declared : orchardRequest.declaredNames = ["Tree", "Leaf", "Row"] := by decide
  have distinct : orchardRequest.declaredNames.Nodup := by
    rw [declared]
    decide
  have succeeds : (resolveAndGenerate orchardRequest .standard).isOk = true := by
    decide +kernel
  rcases Except.exists_ok_of_isOk succeeds with ⟨run, isRun⟩
  rcases generate_rearranged distinct (List.reverse_perm _) (List.Perm.refl _) .standard with
    ⟨success_iff, same⟩
  rcases success_iff.mpr ⟨run, isRun⟩ with ⟨otherRun, isOtherRun⟩
  rcases same run otherRun isRun isOtherRun with ⟨structures, message⟩
  exact ⟨declared, run, otherRun, isRun, isOtherRun, structures, message rfl⟩

end ResolvedMessage

end MessageGen
