import MessageGen.Proofs.Message.References
import MessageGen.Proofs.Structure.Calls

/-!
# Runs on a registry

Whatever is done with a registry, it comes down to calls: to make a structure is to record
files and to note references, in the order of the fields and with the structures inside
first, up to the end or to the first error. Replaying these calls gives the registry that
the run leaves, so that no failure can break what the calls guarantee.
-/

namespace MessageGen

open Emission RegistryCall

variable {context : ClassContext} {registry middle final : StructureRegistry} {name : String}
  {versions : VersionSet} {fields : List Field}

section Steps

variable (context)

/-- The calls that make a structure, given those that make the structures inside. -/
def callsOfStructure (name : String) (versions : VersionSet)
    (resolveFields : Emission (List ResolvedField))
    (inside : StructureRegistry → List RegistryCall) (registry : StructureRegistry) :
    List RegistryCall :=
  if registry.contains name then []
  else
    inside registry ++
      match resolveFields.runWith registry with
      | (.error _, _) => []
      | (.ok fields, _) =>
        let description := structureClass context name versions fields
        match description.checkMethods with
        | .error _ => []
        | .ok () => [.record ⟨context.filePath name, name, description.source⟩]

mutual

/-- The calls that resolve fields; a field that fails is the last one. -/
def callsOfFields : List Field → StructureRegistry → List RegistryCall
  | [], _ => []
  | field :: fields, registry =>
    callsOfField field registry ++
      match (emitField context field).runWith registry with
      | (.error _, _) => []
      | (.ok _, middle) => callsOfFields fields middle

def callsOfField : Field → StructureRegistry → List RegistryCall
  | ⟨attributes, inner⟩, registry =>
    match ResolvedField.resolve context attributes with
    | .error _ => []
    | .ok resolved => callsOfNested attributes resolved inner registry

/-- The calls that make or refer to the structure of a resolved field. -/
def callsOfNested (attributes : FieldAttributes) (resolved : ResolvedField) :
    Option (List Field) → StructureRegistry → List RegistryCall
  | some fields, registry =>
    match resolved.type.structureName? with
    | some name =>
      callsOfStructure context name resolved.versions (emitFields context fields)
        (callsOfFields fields) registry
    | none => []
  | none, _ =>
    match resolved.type.structureName? with
    | some name => [.require name attributes.name]
    | none => []

end

end Steps

theorem runWith_emitStructure_eq_replay {resolveFields : Emission (List ResolvedField)}
    {inside : StructureRegistry → List RegistryCall}
    (replays : ∀ registry, (resolveFields.runWith registry).2 = registry.replay (inside registry))
    (registry : StructureRegistry) :
    ((emitStructure context name versions resolveFields).runWith registry).2 =
      registry.replay (callsOfStructure context name versions resolveFields inside registry) := by
  unfold callsOfStructure
  split
  · rename_i recorded
    rw [runWith_emitStructure_of_recorded recorded]
    rfl
  · rename_i isNew
    rw [runWith_emitStructure_of_new (by simpa using isNew), StructureRegistry.replay_append,
      ← replays]
    rcases resolveFields.runWith registry with ⟨_ | fields, middle⟩
    · rfl
    · cases checked : (structureClass context name versions fields).checkMethods <;>
        simp [checked] <;> rfl

theorem runWith_emitField_eq_replay (attributes : FieldAttributes) (inner : Option (List Field))
    (inside : ∀ fields ∈ inner, ∀ registry, ((emitFields context fields).runWith registry).2 =
      registry.replay (callsOfFields context fields registry)) (registry : StructureRegistry) :
    ((emitField context ⟨attributes, inner⟩).runWith registry).2 =
      registry.replay (callsOfField context ⟨attributes, inner⟩ registry) := by
  have nested : ∀ resolved, ((emitNested context attributes resolved inner).runWith registry).2 =
      registry.replay (callsOfNested context attributes resolved inner registry) := by
    intro resolved
    cases inner with
    | none =>
        simp only [emitNested, callsOfNested]
        cases resolved.type.structureName? <;> rfl
    | some fields =>
        simp only [emitNested, callsOfNested]
        cases resolved.type.structureName? with
        | none => rfl
        | some name => exact runWith_emitStructure_eq_replay (inside fields rfl) registry
  simp only [emitField, callsOfField, runWith_bind, runWith_ofExcept]
  cases ResolvedField.resolve context attributes with
  | error error => rfl
  | ok resolved =>
      simp only [← nested]
      rcases (emitNested context attributes resolved inner).runWith registry with ⟨_ | _, after⟩ <;>
        rfl

theorem runWith_emitFields_cons_eq_replay {field : Field}
    (first : ∀ registry, ((emitField context field).runWith registry).2 =
      registry.replay (callsOfField context field registry))
    (rest : ∀ registry, ((emitFields context fields).runWith registry).2 =
      registry.replay (callsOfFields context fields registry)) (registry : StructureRegistry) :
    ((emitFields context (field :: fields)).runWith registry).2 =
      registry.replay (callsOfFields context (field :: fields) registry) := by
  rw [callsOfFields, StructureRegistry.replay_append, ← first]
  simp only [emitFields, runWith_bind]
  rcases (emitField context field).runWith registry with ⟨_ | resolved, middle⟩
  · rfl
  · simp only [← rest]
    rcases (emitFields context fields).runWith middle with ⟨_ | _, after⟩ <;> rfl

/-- The registry after a run over fields is the one that its calls leave. -/
theorem runWith_emitFields_eq_replay (fields : List Field) (registry : StructureRegistry) :
    ((emitFields context fields).runWith registry).2 =
      registry.replay (callsOfFields context fields registry) := by
  -- The calls depend on the registry, which decides what structures are looked into.
  induction fields using Field.list_induction generalizing registry with
  | nil => rfl
  | plain attributes fields ih =>
      apply runWith_emitFields_cons_eq_replay _ ih
      exact runWith_emitField_eq_replay attributes none fun _ absent => by cases absent
  | nested attributes inner fields ihInner ih =>
      apply runWith_emitFields_cons_eq_replay _ ih
      apply runWith_emitField_eq_replay attributes (some inner)
      rintro _ ⟨⟩
      exact ihInner

/-- What can be done with a registry during a run. -/
inductive RegistryOperation where
  | perform (call : RegistryCall)
  | emit (context : ClassContext) (name : String) (fields : List Field) (versions : VersionSet)
  | emitCommon (context : ClassContext) (common : CommonStructure)

namespace RegistryOperation

/-- The step of a run that an operation stands for. -/
def emission : RegistryOperation → Emission Unit
  | .perform call => modify (·.perform call)
  | .emit context name fields versions => emitDefinition context name fields versions
  | .emitCommon context common => MessageGen.emitCommon context common

/-- The calls that an operation makes. -/
def calls : RegistryOperation → StructureRegistry → List RegistryCall
  | .perform call, _ => [call]
  | .emit context name fields versions, registry =>
    callsOfStructure context name versions (emitFields context fields)
      (callsOfFields context fields) registry
  | .emitCommon context common, registry =>
    match ResolvedField.resolveWithin context common.versions context.validVersions with
    | .error _ => []
    | .ok versions =>
      callsOfStructure context common.name versions (emitFields context common.fields)
        (callsOfFields context common.fields) registry

/-- The registry after an operation, also if the operation fails. -/
def after (operation : RegistryOperation) (registry : StructureRegistry) : StructureRegistry :=
  (operation.emission.runWith registry).2

/-- The registry after operations, where one that fails does not stop the others. -/
def afterAll (operations : List RegistryOperation) (registry : StructureRegistry) :
    StructureRegistry :=
  operations.foldl (fun registry operation => operation.after registry) registry

/-- The calls of all operations in their order. -/
def allCalls : List RegistryOperation → StructureRegistry → List RegistryCall
  | [], _ => []
  | operation :: operations, registry =>
    operation.calls registry ++ allCalls operations (operation.after registry)

theorem after_eq_replay (operation : RegistryOperation) (registry : StructureRegistry) :
    operation.after registry = registry.replay (operation.calls registry) := by
  cases operation with
  | perform call => rfl
  | emit context name fields versions =>
      exact runWith_emitStructure_eq_replay (runWith_emitFields_eq_replay fields) registry
  | emitCommon context common =>
      simp only [after, emission, MessageGen.emitCommon, calls, runWith_bind, runWith_ofExcept]
      cases ResolvedField.resolveWithin context common.versions context.validVersions with
      | error error => rfl
      | ok versions =>
          exact runWith_emitStructure_eq_replay (runWith_emitFields_eq_replay common.fields)
            registry

theorem afterAll_eq_replay (operations : List RegistryOperation) (registry : StructureRegistry) :
    afterAll operations registry = registry.replay (allCalls operations registry) := by
  induction operations generalizing registry with
  | nil => rfl
  | cons operation operations ih =>
      rw [allCalls, StructureRegistry.replay_append, ← after_eq_replay]
      exact ih (operation.after registry)

theorem reflects_afterAll (operations : List RegistryOperation) :
    (afterAll operations ∅).Reflects (allCalls operations ∅) := by
  rw [afterAll_eq_replay]
  exact StructureRegistry.reflects_replay StructureRegistry.reflects_empty _

/-- An operation keeps the files that are recorded, in their order, also if it fails. -/
theorem files_prefix_after (operation : RegistryOperation) (registry : StructureRegistry) :
    registry.files <+: (operation.after registry).files := by
  rw [after_eq_replay]
  exact StructureRegistry.files_prefix_replay registry _

end RegistryOperation

theorem contains_of_emitDefinition
    (run : (emitDefinition context name fields versions).runWith registry = (.ok (), final)) :
    final.contains name = true := by
  rcases emitStructure_eq_ok_iff.mp run with ⟨recorded, rfl⟩ | ⟨-, _, _, -, -, rfl⟩
  · exact recorded
  · rw [StructureRegistry.contains_record]
    exact Or.inr rfl

theorem contains_of_emitCommon {common : CommonStructure}
    (run : (emitCommon context common).runWith registry = (.ok (), final)) :
    final.contains common.name = true := by
  rcases runWith_bind_eq_ok_iff.mp run with ⟨versions, middle, -, made⟩
  exact contains_of_emitDefinition made

namespace RegistryOperation

/-- Operations of which the first fails after it has recorded a structure. -/
def interruptedOperations : List RegistryOperation :=
  let context : ClassContext :=
    ⟨"org", "org", ⟨"org"⟩, "java", "PingRequest", .range 0 1, .empty⟩
  [.emit context "Outer" [.declaring "Item" "Inner" (some []), .declaring "Size" "int32" (some [])]
      (.range 0 1),
    .perform (.require "Outer" "First"), .perform (.require "Outer" "Second"),
    .perform (.require "Remote" "Third")]

end RegistryOperation

end MessageGen
