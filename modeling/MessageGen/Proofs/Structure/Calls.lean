import Mathlib.Data.Finset.Card
import MessageGen.Proofs.Structure.Files
import MessageGen.Proofs.Text.Bytes

/-!
# Calls on a registry

A registry is changed by two calls: a file is recorded, or a reference is noted. What a
registry holds follows from the calls that were made on it, in their order: the first file
and the first reference of every name are kept.
-/

namespace MessageGen

/-- A call that changes a registry. -/
inductive RegistryCall where
  | record (file : GeneratedFile)
  | require (structureName field : String)
  deriving DecidableEq

namespace RegistryCall

def recordedName? : RegistryCall → Option String
  | .record file => some file.className
  | .require .. => none

def reference? : RegistryCall → Option StructureReference
  | .record _ => none
  | .require structureName field => some ⟨structureName, field⟩

/-- The names of recorded files, with those that were dropped. -/
def recordedNames (calls : List RegistryCall) : List String :=
  calls.filterMap recordedName?

/-- The references that were noted, with those that came again. -/
def notedReferences (calls : List RegistryCall) : List StructureReference :=
  calls.filterMap reference?

/-- The first reference to a structure. -/
def firstReference? (calls : List RegistryCall) (name : String) : Option StructureReference :=
  (notedReferences calls).find? (·.structureName == name)

theorem recordedNames_append (calls more : List RegistryCall) :
    recordedNames (calls ++ more) = recordedNames calls ++ recordedNames more :=
  List.filterMap_append

theorem firstReference?_append (calls more : List RegistryCall) (name : String) :
    firstReference? (calls ++ more) name =
      (firstReference? calls name).or (firstReference? more name) := by
  rw [firstReference?, notedReferences, List.filterMap_append, List.find?_append]
  rfl

theorem exists_firstReference {calls : List RegistryCall} {reference : StructureReference}
    (reference_mem : reference ∈ notedReferences calls) :
    ∃ first, firstReference? calls reference.structureName = some first ∧
      first.structureName = reference.structureName := by
  cases found : firstReference? calls reference.structureName with
  | none => exact absurd BEq.rfl (List.find?_eq_none.mp found reference reference_mem)
  | some first => exact ⟨first, rfl, by simpa using List.find?_some found⟩

theorem mem_of_firstReference {calls : List RegistryCall} {reference : StructureReference}
    {name : String} (found : firstReference? calls name = some reference) :
    reference ∈ notedReferences calls ∧ reference.structureName = name :=
  ⟨List.mem_of_find?_eq_some found, by simpa using List.find?_some found⟩

end RegistryCall

open RegistryCall

namespace StructureRegistry

variable {registry : StructureRegistry} {calls : List RegistryCall} {call : RegistryCall}
  {file : GeneratedFile} {name structureName field : String}

def perform (registry : StructureRegistry) : RegistryCall → StructureRegistry
  | .record file => registry.record file
  | .require structureName field => registry.require structureName field

/-- Makes calls one after the other. -/
def replay (registry : StructureRegistry) (calls : List RegistryCall) : StructureRegistry :=
  calls.foldl perform registry

theorem replay_append (calls more : List RegistryCall) :
    registry.replay (calls ++ more) = (registry.replay calls).replay more :=
  List.foldl_append

theorem files_prefix_perform (registry : StructureRegistry) (call : RegistryCall) :
    registry.files <+: (registry.perform call).files := by
  cases call with
  | record file =>
      simp only [perform, record]
      split
      · exact List.prefix_rfl
      · exact List.prefix_append _ _
  | require structureName field =>
      rw [perform, files_require]

theorem files_prefix_replay (registry : StructureRegistry) (calls : List RegistryCall) :
    registry.files <+: (registry.replay calls).files := by
  induction calls generalizing registry with
  | nil => exact List.prefix_rfl
  | cons call calls ih => exact (files_prefix_perform registry call).trans (ih _)

theorem contains_record : (registry.record file).contains name = true ↔
    registry.contains name = true ∨ name = file.className := by
  unfold record
  split
  · rename_i recorded
    constructor
    · exact Or.inl
    · rintro (contained | rfl)
      · exact contained
      · exact recorded
  · simp only [contains_iff_mem, List.map_append, List.map_singleton, List.mem_append,
      List.mem_singleton]

@[simp]
theorem contains_require : (registry.require structureName field).contains name =
    registry.contains name := by
  rw [contains, files_require, contains]

@[simp]
theorem references_record : (registry.record file).references = registry.references := by
  unfold record
  split <;> rfl

theorem mem_of_mem_references_require {reference : StructureReference}
    (reference_mem : reference ∈ (registry.require structureName field).references) :
    reference ∈ registry.references ∨ reference = ⟨structureName, field⟩ := by
  unfold require at reference_mem
  split at reference_mem
  · exact Or.inl reference_mem
  · exact (List.mem_append.mp reference_mem).imp_right List.mem_singleton.mp

theorem nodup_record (distinct : (registry.files.map (·.className)).Nodup) :
    ((registry.record file).files.map (·.className)).Nodup := by
  unfold record
  split
  · exact distinct
  · rename_i isNew
    rw [contains_iff_mem] at isNew
    rw [List.map_append, List.map_singleton, ← List.concat_eq_append]
    exact distinct.concat isNew

/-- Noting a reference does not change which one is the first of its name. -/
theorem find?_references_require :
    (registry.require structureName field).references.find? (·.structureName == name) =
      (registry.references ++ [StructureReference.mk structureName field]).find?
        (·.structureName == name) := by
  unfold require
  split
  · rename_i required
    rw [List.find?_append]
    cases found : registry.references.find? (·.structureName == name) with
    | some reference => rfl
    | none =>
        have otherName : structureName ≠ name := by
          rintro rfl
          rw [List.find?_eq_none] at found
          rcases List.any_eq_true.mp required with ⟨reference, reference_mem, isNamed⟩
          exact found reference reference_mem isNamed
        simp [otherName]
  · rfl

theorem nodup_require (distinct : (registry.references.map (·.structureName)).Nodup) :
    ((registry.require structureName field).references.map (·.structureName)).Nodup := by
  unfold require
  split
  · exact distinct
  · rename_i isNew
    rw [List.map_append, List.map_singleton, ← List.concat_eq_append]
    apply distinct.concat
    simpa using isNew

/-- A registry holds what the calls made on it, from the empty one on, have left. -/
structure Reflects (registry : StructureRegistry) (calls : List RegistryCall) : Prop where
  distinctFiles : (registry.files.map (·.className)).Nodup
  recorded : ∀ name, registry.contains name = true ↔ name ∈ recordedNames calls
  distinctReferences : (registry.references.map (·.structureName)).Nodup
  firstReference : ∀ name, registry.references.find? (·.structureName == name) =
    firstReference? calls name

theorem reflects_empty : (∅ : StructureRegistry).Reflects [] where
  distinctFiles := List.nodup_nil
  recorded _ := by simp [recordedNames, contains, EmptyCollection.emptyCollection, empty]
  distinctReferences := List.nodup_nil
  firstReference _ := rfl

theorem reflects_perform (reflects : registry.Reflects calls) (call : RegistryCall) :
    (registry.perform call).Reflects (calls ++ [call]) := by
  cases call with
  | record file =>
      constructor
      case distinctFiles => exact nodup_record reflects.distinctFiles
      case recorded =>
        intro name
        rw [perform, contains_record, reflects.recorded, recordedNames_append]
        simp [recordedNames, recordedName?]
      case distinctReferences =>
        rw [perform, references_record]
        exact reflects.distinctReferences
      case firstReference =>
        intro name
        rw [perform, references_record, reflects.firstReference, firstReference?_append]
        simp [firstReference?, notedReferences, reference?]
  | require structureName field =>
      constructor
      case distinctFiles =>
        rw [perform, files_require]
        exact reflects.distinctFiles
      case recorded =>
        intro name
        rw [perform, contains_require, reflects.recorded, recordedNames_append]
        simp [recordedNames, recordedName?]
      case distinctReferences => exact nodup_require reflects.distinctReferences
      case firstReference =>
        intro name
        rw [perform, find?_references_require, List.find?_append, reflects.firstReference,
          firstReference?_append]
        rfl

/-- What a registry holds after calls, it holds because of them. -/
theorem reflects_replay {earlier : List RegistryCall} (reflects : registry.Reflects earlier)
    (calls : List RegistryCall) : (registry.replay calls).Reflects (earlier ++ calls) := by
  induction calls generalizing registry earlier with
  | nil =>
      rw [List.append_nil]
      exact reflects
  | cons call calls ih =>
      have continued := ih (reflects_perform reflects call)
      rwa [List.append_assoc] at continued

theorem leastReference?_eq_some {references : List StructureReference} {least : StructureReference}
    (found : leastReference? references = some least) :
    least ∈ references ∧
      ∀ reference ∈ references, least.structureName ≤ reference.structureName := by
  induction references generalizing least with
  | nil => cases found
  | cons reference references ih =>
      rw [leastReference?] at found
      split at found
      · rename_i isLast
        cases found
        rw [leastReference?_eq_none_iff] at isLast
        simp [isLast]
      · rename_i other foundOther
        rcases ih foundOther with ⟨other_mem, isLeast⟩
        split at found
        · rename_i less
          cases found
          refine ⟨List.mem_cons_of_mem _ other_mem, ?_⟩
          exact List.forall_mem_cons.mpr ⟨less.le, isLeast⟩
        · rename_i notLess
          cases found
          refine ⟨List.mem_cons_self, ?_⟩
          refine List.forall_mem_cons.mpr ⟨le_rfl, ?_⟩
          intro later later_mem
          exact (not_lt.mp notLess).trans (isLeast later later_mem)

/-- A reference is reported by a check if it is the first one to the least missing structure. -/
structure IsReported (registry : StructureRegistry) (calls : List RegistryCall)
    (missing : StructureReference) : Prop where
  isFirst : firstReference? calls missing.structureName = some missing
  isMissing : registry.contains missing.structureName = false
  isLeast : ∀ reference ∈ notedReferences calls,
    registry.contains reference.structureName = false →
      Text.bytes missing.structureName ≤ Text.bytes reference.structureName

namespace Reflects

variable (reflects : registry.Reflects calls)

include reflects

theorem length_files : registry.files.length = (recordedNames calls).toFinset.card := by
  have sameNames : (registry.files.map (·.className)).toFinset = (recordedNames calls).toFinset := by
    ext name
    rw [List.mem_toFinset, List.mem_toFinset, ← contains_iff_mem, reflects.recorded]
  rw [← sameNames, List.toFinset_card_of_nodup reflects.distinctFiles, List.length_map]

theorem mem_references_iff {reference : StructureReference} :
    reference ∈ registry.references ↔
      firstReference? calls reference.structureName = some reference := by
  rw [← reflects.firstReference]
  constructor
  · intro reference_mem
    cases found : registry.references.find? (·.structureName == reference.structureName) with
    | none =>
        exact absurd BEq.rfl (List.find?_eq_none.mp found reference reference_mem)
    | some other =>
        have sameName : other.structureName = reference.structureName := by
          simpa using List.find?_some found
        rw [List.inj_on_of_nodup_map reflects.distinctReferences (List.mem_of_find?_eq_some found)
          reference_mem sameName]
  · exact List.mem_of_find?_eq_some

theorem exists_mem_references {reference : StructureReference}
    (reference_mem : reference ∈ notedReferences calls) :
    ∃ first ∈ registry.references, first.structureName = reference.structureName := by
  rcases exists_firstReference reference_mem with ⟨first, isFirst, sameName⟩
  rw [← sameName] at isFirst
  exact ⟨first, reflects.mem_references_iff.mpr isFirst, sameName⟩

theorem checkReferences_eq_ok_iff : registry.checkReferences = .ok () ↔
    ∀ reference ∈ notedReferences calls, registry.contains reference.structureName = true := by
  rw [StructureRegistry.checkReferences_eq_ok_iff]
  constructor
  · intro allRecorded reference reference_mem
    rcases reflects.exists_mem_references reference_mem with ⟨first, first_mem, sameName⟩
    rw [← sameName]
    exact allRecorded first first_mem
  · intro allRecorded reference reference_mem
    apply allRecorded
    exact (mem_of_firstReference (reflects.mem_references_iff.mp reference_mem)).1

theorem exists_isReported_of_error {error : GenerationError}
    (failed : registry.checkReferences = .error error) :
    ∃ missing, error = .unknownStructure missing.field missing.structureName ∧
      IsReported registry calls missing := by
  rw [checkReferences] at failed
  split at failed
  · rename_i missing found
    cases failed
    rcases leastReference?_eq_some found with ⟨missing_mem, isLeast⟩
    rw [unresolved, List.mem_filter] at missing_mem
    refine ⟨missing, rfl, ?_⟩
    constructor
    case isFirst => exact reflects.mem_references_iff.mp missing_mem.1
    case isMissing => simpa using missing_mem.2
    case isLeast =>
      intro reference reference_mem notRecorded
      rcases reflects.exists_mem_references reference_mem with ⟨first, first_mem, sameName⟩
      rw [← Text.le_iff_bytes_le, ← sameName]
      apply isLeast
      rw [unresolved, List.mem_filter, sameName, notRecorded]
      exact ⟨first_mem, rfl⟩
  · cases failed

/-- A check that fails names the first reference to the least structure that is missing. -/
theorem checkReferences_eq_error_iff {error : GenerationError} :
    registry.checkReferences = .error error ↔
      ∃ missing, error = .unknownStructure missing.field missing.structureName ∧
        IsReported registry calls missing := by
  refine ⟨reflects.exists_isReported_of_error, ?_⟩
  rintro ⟨missing, rfl, reported⟩
  cases checked : registry.checkReferences with
  | ok =>
      have recorded := reflects.checkReferences_eq_ok_iff.mp checked missing
        (mem_of_firstReference reported.isFirst).1
      rw [reported.isMissing] at recorded
      cases recorded
  | error found =>
      -- Some reference is reported, and a least name has one first reference only.
      rcases reflects.exists_isReported_of_error checked with ⟨other, rfl, otherReported⟩
      have sameName : missing.structureName = other.structureName := by
        apply le_antisymm
        · exact Text.le_iff_bytes_le.mpr (reported.isLeast other
            (mem_of_firstReference otherReported.isFirst).1 otherReported.isMissing)
        · exact Text.le_iff_bytes_le.mpr (otherReported.isLeast missing
            (mem_of_firstReference reported.isFirst).1 reported.isMissing)
      have isFirst := reported.isFirst
      rw [sameName, otherReported.isFirst] at isFirst
      cases isFirst
      rfl

end Reflects

end StructureRegistry

end MessageGen
