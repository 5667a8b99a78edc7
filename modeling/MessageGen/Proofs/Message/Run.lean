import MessageGen.Proofs.Structure.Files

/-!
# Successful runs over a document

A run over a document makes the common structures, then the structures of the fields,
then checks the references and the class of the message. If it succeeds, its structure
files are the class files of the kept definitions, and no two of them have one name.
-/

namespace MessageGen

open Emission

namespace ResolvedMessage

variable {document : Document} {settings : Settings} {message : ResolvedMessage}
  {output : GenerationOutput} {context : ClassContext} {registry final : StructureRegistry}
  {kept commons : List CommonStructure}

theorem emitCommons_cons_eq_ok_iff {common : CommonStructure} :
    (emitCommons context (common :: commons)).runWith registry = (.ok (), final) ↔
      ∃ versions middle, ResolvedField.resolveWithin context common.versions
          context.validVersions = .ok versions ∧
        (emitStructure context common.name versions (emitFields context common.fields)).runWith
          registry = (.ok (), middle) ∧
        (emitCommons context commons).runWith middle = (.ok (), final) := by
  simp only [emitCommons, emitCommon, emitDefinition, runWith_bind_eq_ok_iff, runWith_ofExcept,
    Prod.mk.injEq]
  constructor
  · rintro ⟨_, middle, ⟨versions, _, ⟨hasVersions, rfl⟩, made⟩, continued⟩
    exact ⟨versions, middle, hasVersions, made, continued⟩
  · rintro ⟨versions, middle, hasVersions, made, continued⟩
    exact ⟨(), middle, ⟨versions, registry, ⟨hasVersions, rfl⟩, made⟩, continued⟩

/-- After the common structures the registry holds the files of the definitions kept then. -/
theorem accounts_of_emitCommons
    (run : (emitCommons context commons).runWith registry = (.ok (), final))
    (accounts : registry.Accounts context kept) :
    final.Accounts context (CommonStructure.keepCommons commons kept) := by
  induction commons generalizing registry kept with
  | nil =>
      cases run
      exact accounts
  | cons common commons ih =>
      rcases emitCommons_cons_eq_ok_iff.mp run with
        ⟨versions, middle, hasVersions, made, continued⟩
      exact ih continued
        (accounts_of_emitStructure common accounts_of_emitFields hasVersions made accounts)

/-- The message is made if each step succeeds: its structures, the references and its methods. -/
theorem emitMessage_eq_ok_iff {description : ClassDescription} :
    (message.emitMessage context).runWith registry = (.ok description, final) ↔
      ∃ afterCommons fields,
        (emitCommons context message.document.commonStructures).runWith registry =
          (.ok (), afterCommons) ∧
        (emitFields context message.document.fields).runWith afterCommons =
          (.ok fields, final) ∧
        final.checkReferences = .ok () ∧
        (message.messageClass context fields).checkMethods = .ok () ∧
        message.messageClass context fields = description := by
  simp only [emitMessage, runWith_bind_eq_ok_iff, runWith_get, runWith_ofExcept, runWith_pure,
    Prod.mk.injEq, Except.ok.injEq]
  constructor
  · rintro ⟨_, afterCommons, commonsRun, fields, _, fieldsRun, _, _, ⟨rfl, rfl⟩, _, _,
      ⟨referencesChecked, rfl⟩, _, _, ⟨methodsChecked, rfl⟩, rfl, rfl⟩
    exact ⟨afterCommons, fields, commonsRun, fieldsRun, referencesChecked, methodsChecked, rfl⟩
  · rintro ⟨afterCommons, fields, commonsRun, fieldsRun, referencesChecked, methodsChecked, rfl⟩
    exact ⟨(), afterCommons, commonsRun, fields, final, fieldsRun, final, final, ⟨rfl, rfl⟩,
      (), final, ⟨referencesChecked, rfl⟩, (), final, ⟨methodsChecked, rfl⟩, rfl, rfl⟩

/-- Once the structures are made and the references checked, the methods decide. -/
theorem runWith_emitMessage {afterCommons : StructureRegistry} {fields : List ResolvedField}
    (commonsRun : (emitCommons context message.document.commonStructures).runWith registry =
      (.ok (), afterCommons))
    (fieldsRun : (emitFields context message.document.fields).runWith afterCommons =
      (.ok fields, final))
    (checked : final.checkReferences = .ok ()) :
    (message.emitMessage context).runWith registry =
      ((message.messageClass context fields).checkMethods.map fun _ =>
        message.messageClass context fields, final) := by
  simp only [emitMessage, runWith_bind, commonsRun, fieldsRun, runWith_get, runWith_ofExcept,
    checked]
  cases (message.messageClass context fields).checkMethods <;> rfl

/-- Generation succeeds exactly if each of its steps does. -/
theorem generate_eq_ok_iff : message.generate = .ok output ↔
    ∃ afterCommons fields registry,
      (emitCommons message.context message.document.commonStructures).runWith ∅ =
        (.ok (), afterCommons) ∧
      (emitFields message.context message.document.fields).runWith afterCommons =
        (.ok fields, registry) ∧
      registry.checkReferences = .ok () ∧
      (message.messageClass message.context fields).checkMethods = .ok () ∧
      ⟨⟨message.filePath, message.document.name,
        (message.messageClass message.context fields).source⟩, registry.files⟩ = output := by
  have run_iff : message.generate = .ok output ↔ ∃ description registry,
      (message.emitMessage message.context).runWith ∅ = (.ok description, registry) ∧
      ⟨⟨message.filePath, message.document.name, description.source⟩, registry.files⟩ =
        output := by
    unfold generate
    cases (message.emitMessage message.context).runWith ∅ with
    | mk outcome registry => cases outcome <;> simp
  simp only [run_iff, emitMessage_eq_ok_iff]
  constructor
  · rintro ⟨_, registry, ⟨afterCommons, fields, commonsRun, fieldsRun, referencesChecked,
      methodsChecked, rfl⟩, rfl⟩
    exact ⟨afterCommons, fields, registry, commonsRun, fieldsRun, referencesChecked,
      methodsChecked, rfl⟩
  · rintro ⟨afterCommons, fields, registry, commonsRun, fieldsRun, referencesChecked,
      methodsChecked, rfl⟩
    exact ⟨_, registry, ⟨afterCommons, fields, commonsRun, fieldsRun, referencesChecked,
      methodsChecked, rfl⟩, rfl⟩

theorem accounts_empty : (∅ : StructureRegistry).Accounts context [] :=
  ⟨rfl, fun _ definition_mem => absurd definition_mem List.not_mem_nil,
    fun _ definition_mem => absurd definition_mem List.not_mem_nil⟩

theorem accounts_of_run {afterCommons : StructureRegistry} {fields : List ResolvedField}
    (commonsRun : (emitCommons context document.commonStructures).runWith ∅ =
      (.ok (), afterCommons))
    (fieldsRun : (emitFields context document.fields).runWith afterCommons =
      (.ok fields, registry)) :
    registry.Accounts context document.keptStructures :=
  accounts_of_emitFields fieldsRun (accounts_of_emitCommons commonsRun accounts_empty)

theorem mapM_classFile_of_generate (generated : message.generate = .ok output) :
    message.document.keptStructures.mapM (CommonStructure.classFile message.context) =
      .ok output.structures := by
  rcases generate_eq_ok_iff.mp generated with
    ⟨afterCommons, fields, registry, commonsRun, fieldsRun, -, -, rfl⟩
  exact (accounts_of_run commonsRun fieldsRun).files

theorem map_className_of_generate (generated : message.generate = .ok output) :
    output.structures.map (·.className) = message.document.keptStructures.map (·.name) :=
  Except.map_eq_of_mapM CommonStructure.className_of_classFile
    (mapM_classFile_of_generate generated)

/-- The flexible versions of a document with the given valid versions. -/
def flexibleVersionsOf (document : Document) (validVersions : VersionSet) :
    Except GenerationError VersionSet :=
  match document.flexibleVersions with
  | some expression => VersionRange.resolveFlexible expression validVersions
  | none => .ok .empty

theorem resolve_eq : resolve document settings = (do
    settings.validate
    let parts ← MessageKind.resolve document.name document.type
    let validVersions ← VersionRange.resolve document.validVersions none
    let flexibleVersions ← flexibleVersionsOf document validVersions
    return ⟨document, settings, parts.1, parts.2, validVersions, flexibleVersions⟩) := by
  unfold resolve flexibleVersionsOf
  cases document.flexibleVersions <;> rfl

theorem resolve_eq_ok_iff : resolve document settings = .ok message ↔
    settings.validate = .ok () ∧ ∃ kind name validVersions flexibleVersions,
      MessageKind.resolve document.name document.type = .ok (kind, name) ∧
      VersionRange.resolve document.validVersions none = .ok validVersions ∧
      flexibleVersionsOf document validVersions = .ok flexibleVersions ∧
      ⟨document, settings, kind, name, validVersions, flexibleVersions⟩ = message := by
  simp only [resolve_eq, Except.bind_eq_ok_iff, Except.pure_eq_ok_iff, Prod.exists]
  constructor
  · rintro ⟨_, validated, kind, name, hasKind, validVersions, valid, flexibleVersions, flexible,
      made⟩
    exact ⟨validated, kind, name, validVersions, flexibleVersions, hasKind, valid, flexible, made⟩
  · rintro ⟨validated, kind, name, validVersions, flexibleVersions, hasKind, valid, flexible,
      made⟩
    exact ⟨(), validated, kind, name, hasKind, validVersions, valid, flexibleVersions, flexible,
      made⟩

theorem document_of_resolve (resolved : resolve document settings = .ok message) :
    message.document = document := by
  rcases resolve_eq_ok_iff.mp resolved with ⟨-, _, _, _, _, -, -, -, rfl⟩
  rfl

end ResolvedMessage

end MessageGen
