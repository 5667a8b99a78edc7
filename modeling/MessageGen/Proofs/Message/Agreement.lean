import MessageGen.Proofs.Message.Run
import MessageGen.Proofs.Structure.Agreement

/-!
# Messages of one document with different settings

Settings that can be used decide where the files of a message go and which packages are
named in them, and nothing else. Two runs over one document, each with its settings, end
in the same error, or in files that agree up to packages, directories and extensions.
-/

namespace MessageGen

open Emission

namespace ResolvedMessage

variable {document : Document} {firstSettings secondSettings : Settings}
  {first second : ResolvedMessage} {firstContext secondContext : ClassContext}

/-- Two messages of one document; their settings may differ. -/
structure SameDocument (first second : ResolvedMessage) : Prop where
  document : first.document = second.document
  kind : first.kind = second.kind
  name : first.name = second.name
  validVersions : first.validVersions = second.validVersions
  flexibleVersions : first.flexibleVersions = second.flexibleVersions

/-- The file of a message with the given resolved fields. -/
def messageFile (message : ResolvedMessage) (fields : List ResolvedField) : GeneratedFile :=
  ⟨message.context.filePath message.document.name, message.document.name,
    (message.messageClass message.context fields).source⟩

/--
The files of two messages of one document agree: the messages have the same fields, the
structures are the same in their order, and the classes agree up to their packages.
-/
structure OutputsAgree (first second : ResolvedMessage)
    (firstOutput secondOutput : GenerationOutput) : Prop where
  document : first.SameDocument second
  message : ∃ fields, firstOutput.message = first.messageFile fields ∧
    secondOutput.message = second.messageFile fields ∧
    ClassDescription.AgreesUpToPackages first.context second.context
      (first.messageClass first.context fields) (second.messageClass second.context fields)
  structures : List.Forall₂ (SameStructure first.context second.context) firstOutput.structures
    secondOutput.structures

theorem agree_resolve (firstValid : firstSettings.validate = .ok ())
    (secondValid : secondSettings.validate = .ok ()) :
    Except.Agree SameDocument (resolve document firstSettings)
      (resolve document secondSettings) := by
  rw [resolve_eq, resolve_eq, firstValid, secondValid]
  apply (Except.Agree.refl _).bind
  rintro _ _ -
  apply (Except.Agree.refl _).bind
  rintro parts _ rfl
  apply (Except.Agree.refl _).bind
  rintro validVersions _ rfl
  apply (Except.Agree.refl _).bind
  rintro flexibleVersions _ rfl
  exact .ok ⟨rfl, rfl, rfl, rfl, rfl⟩

namespace SameDocument

variable (same : first.SameDocument second)

include same

theorem context : first.context.SameDocument second.context where
  sourceName := congrArg Document.name same.document
  validVersions := same.validVersions
  flexibleVersions := same.flexibleVersions

theorem maxVersion_eq : first.maxVersion = second.maxVersion := by
  rw [maxVersion, maxVersion, same.validVersions]

theorem kindMethods_eq : first.kindMethods = second.kindMethods := by
  simp only [kindMethods, apiKeyMethod, maxVersionMethod, flexibleVersionsMethod, same.kind,
    same.document, same.maxVersion_eq, same.flexibleVersions]

theorem agreesUpToPackages_messageClass (fields : List ResolvedField) :
    ClassDescription.AgreesUpToPackages first.context second.context
      (first.messageClass first.context fields) (second.messageClass second.context fields) := by
  simp only [messageClass, same.kindMethods_eq, same.validVersions]
  apply ClassDescription.AgreesUpToPackages.append_methods
  apply ClassDescription.AgreesUpToPackages.withFields _ same.context
  constructor
  case name => exact congrArg Document.name same.document
  case baseClass => exact congrArg MessageKind.baseClass same.kind
  case docs =>
    simp only [same.context.classDocs_eq, same.document, same.kind, same.maxVersion_eq]
  case imports =>
    refine ⟨["java.util.List"], [first.kind.baseClass], by decide, ?_, ?_⟩
    · exact sortNames_congr fun path => by simp [or_comm]
    · rw [same.kind]
      exact sortNames_congr fun path => by simp [or_comm]
  all_goals rfl

theorem simulates_emitCommon (common : CommonStructure) :
    Simulates first.context second.context Eq (emitCommon first.context common)
      (emitCommon second.context common) := by
  simp only [emitCommon, emitDefinition, same.context.resolveWithin_eq, same.context.validVersions]
  apply (Simulates.of_agree (.refl _)).bind
  rintro versions _ rfl
  exact simulates_emitStructure same.context (simulates_emitFields same.context common.fields)

theorem simulates_emitCommons (commons : List CommonStructure) :
    Simulates first.context second.context Eq (emitCommons first.context commons)
      (emitCommons second.context commons) := by
  induction commons with
  | nil => exact .pure rfl
  | cons common commons ih =>
      apply (same.simulates_emitCommon common).bind
      rintro _ _ -
      exact ih

/-- The steps that make the structures and the class of a message simulate each other. -/
theorem simulates_emitMessage :
    Simulates first.context second.context
      (fun firstClass secondClass => ∃ fields,
        firstClass = first.messageClass first.context fields ∧
        secondClass = second.messageClass second.context fields)
      (first.emitMessage first.context) (second.emitMessage second.context) := by
  simp only [emitMessage, same.document]
  apply (same.simulates_emitCommons _).bind
  rintro _ _ -
  apply (simulates_emitFields same.context _).bind
  rintro fields _ rfl
  apply Simulates.get_bind
  intro firstRegistry secondRegistry corresponds
  rw [corresponds.checkReferences_eq]
  apply (Simulates.of_agree (.refl _)).bind
  rintro _ _ -
  rw [(same.agreesUpToPackages_messageClass fields).checkMethods_eq]
  apply (Simulates.of_agree (.refl _)).bind
  rintro _ _ -
  exact .pure ⟨fields, rfl, rfl⟩

theorem agree_generate :
    Except.Agree (OutputsAgree first second) first.generate second.generate := by
  have start : StructureRegistry.Corresponds first.context second.context ∅ ∅ := ⟨.nil, rfl⟩
  rcases same.simulates_emitMessage ∅ ∅ start with ⟨agree, later⟩
  unfold generate
  generalize (first.emitMessage first.context).runWith ∅ = firstRun at agree later ⊢
  generalize (second.emitMessage second.context).runWith ∅ = secondRun at agree later ⊢
  rcases firstRun with ⟨firstOutcome, firstRegistry⟩
  rcases secondRun with ⟨secondOutcome, secondRegistry⟩
  cases agree with
  | error failure => exact .error failure
  | ok classes =>
      rcases classes with ⟨fields, rfl, rfl⟩
      have classes := same.agreesUpToPackages_messageClass fields
      exact .ok ⟨same, ⟨fields, rfl, rfl, classes⟩, later.files⟩

end SameDocument

namespace OutputsAgree

variable {firstOutput secondOutput : GenerationOutput}
  (agree : OutputsAgree first second firstOutput secondOutput)

include agree

theorem messageName : firstOutput.message.className = secondOutput.message.className := by
  rcases agree.message with ⟨fields, firstMade, secondMade, -⟩
  rw [firstMade, secondMade]
  exact congrArg Document.name agree.document.document

theorem structureNames :
    firstOutput.structures.map (·.className) = secondOutput.structures.map (·.className) := by
  rw [← List.forall₂_eq_eq_eq, List.forall₂_map_left_iff, List.forall₂_map_right_iff]
  apply agree.structures.imp
  rintro _ _ ⟨name, versions, fields, rfl, rfl, -⟩
  rfl

end OutputsAgree

/-- The message of a document with some settings, and its files. -/
def resolveAndGenerate (document : Document) (settings : Settings) :
    Except GenerationError (ResolvedMessage × GenerationOutput) := do
  let message ← resolve document settings
  let output ← message.generate
  return (message, output)

theorem resolveAndGenerate_eq_ok_iff {settings : Settings}
    {run : ResolvedMessage × GenerationOutput} :
    resolveAndGenerate document settings = .ok run ↔
      resolve document settings = .ok run.1 ∧ run.1.generate = .ok run.2 := by
  simp only [resolveAndGenerate, Except.bind_eq_ok_iff, Except.pure_eq_ok_iff]
  constructor
  · rintro ⟨message, resolved, output, generated, rfl⟩
    exact ⟨resolved, generated⟩
  · rintro ⟨resolved, generated⟩
    exact ⟨run.1, resolved, run.2, generated, rfl⟩

/-- Runs with two settings end in one error or in files that agree. -/
theorem agree_resolveAndGenerate (document : Document)
    (firstValid : firstSettings.validate = .ok ())
    (secondValid : secondSettings.validate = .ok ()) :
    Except.Agree
      (fun firstRun secondRun => OutputsAgree firstRun.1 secondRun.1 firstRun.2 secondRun.2)
      (resolveAndGenerate document firstSettings) (resolveAndGenerate document secondSettings) := by
  apply (agree_resolve firstValid secondValid).bind
  intro first second same
  apply same.agree_generate.bind
  intro firstOutput secondOutput agree
  exact .ok agree

end ResolvedMessage

end MessageGen
