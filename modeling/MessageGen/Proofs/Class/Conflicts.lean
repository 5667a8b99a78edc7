import Mathlib.Data.List.Nodup
import MessageGen.Field.Declaration
import MessageGen.Proofs.Class.Names
import MessageGen.Proofs.Field.Versions

/-!
# Names that a class declares

The check of a class looks at the names of its methods alone. It is enough for the
members too: fields with one member name have one getter. What is found is the first
name, in the order of declaration, that is final or stands further in front already.
-/

namespace MessageGen

/-- The names of the getter and the setter of a field. -/
def accessorNames (fieldName : String) : List String :=
  ["get" ++ capitalizedName (camelCaseName fieldName),
    "set" ++ capitalizedName (camelCaseName fieldName)]

/-- The names of the getters and setters of fields, in the order of declaration. -/
def methodNames (fields : List Field) : List String :=
  fields.flatMap fun field => accessorNames field.name

def memberNames (fields : List Field) : List String :=
  fields.map fun field => memberName field.name

/-- Fields with different getters have different members. -/
theorem nodup_memberNames {fields : List Field} (distinct : (methodNames fields).Nodup) :
    (memberNames fields).Nodup := by
  induction fields with
  | nil => exact List.nodup_nil
  | cons field fields ih =>
      rw [methodNames, List.flatMap_cons, List.nodup_append] at distinct
      rcases distinct with ⟨-, distinct, apart⟩
      refine List.nodup_cons.mpr ⟨?_, ih distinct⟩
      intro member_mem
      rcases List.mem_map.mp member_mem with ⟨other, other_mem, sameMember⟩
      have sameCase := camelCaseName_eq_of_memberName_eq sameMember
      have getter_mem :
          "get" ++ capitalizedName (camelCaseName field.name) ∈ methodNames fields := by
        rw [← sameCase]
        exact List.mem_flatMap.mpr ⟨other, other_mem, List.mem_cons_self⟩
      exact apart _ List.mem_cons_self _ getter_mem rfl

/-- Whether the getters and setters of fields can all be methods of one class. -/
def HasDistinctAccessors (fields : List Field) : Prop :=
  (methodNames fields).Nodup ∧ "getClass" ∉ methodNames fields

instance (fields : List Field) : Decidable (HasDistinctAccessors fields) :=
  inferInstanceAs (Decidable (_ ∧ _))

/--
Whether fields cannot all have their members and accessors in one class, or not beside
the further methods of that class.
-/
def HasConflict (fields : List Field) (further : List String) : Prop :=
  ¬(memberNames fields).Nodup ∨ ¬(methodNames fields).Nodup ∨
    ∃ name ∈ methodNames fields, name ∈ "getClass" :: further

instance (fields : List Field) (further : List String) : Decidable (HasConflict fields further) :=
  inferInstanceAs (Decidable (_ ∨ _))

/-- A name is the first of a list that is final or stands further in front already. -/
def IsFirstConflict (names : List String) (name : String) : Prop :=
  ∃ before after, names = before ++ name :: after ∧ before.Nodup ∧ "getClass" ∉ before ∧
    (name = "getClass" ∨ name ∈ before)

namespace ClassDescription

variable {description : ClassDescription} {seen names : List String} {conflict : String}

theorem firstConflict?_eq_none_iff : firstConflict? seen names = none ↔
    names.Nodup ∧ "getClass" ∉ names ∧ ∀ name ∈ names, name ∉ seen := by
  induction names generalizing seen with
  | nil => simp [firstConflict?]
  | cons name names ih =>
      simp only [firstConflict?, finalMethods, List.contains_eq_mem, List.mem_singleton]
      by_cases isConflict : name = "getClass" ∨ name ∈ seen
      · simp only [Bool.or_eq_true, decide_eq_true_eq, isConflict, if_true, reduceCtorEq, false_iff]
        rintro ⟨-, notFinal, apart⟩
        rcases isConflict with rfl | isSeen
        · exact notFinal List.mem_cons_self
        · exact apart name List.mem_cons_self isSeen
      · simp only [Bool.or_eq_true, decide_eq_true_eq, isConflict, if_false, ih, List.nodup_cons]
        rw [not_or] at isConflict
        simp only [List.mem_cons, not_or, forall_eq_or_imp]
        constructor
        · rintro ⟨distinct, notFinal, apart⟩
          refine ⟨⟨?_, distinct⟩, ⟨Ne.symm isConflict.1, notFinal⟩, isConflict.2, ?_⟩
          · intro name_mem
            exact (apart name name_mem).1 rfl
          · intro other other_mem
            exact (apart other other_mem).2
        · rintro ⟨⟨isNew, distinct⟩, ⟨-, notFinal⟩, -, apart⟩
          refine ⟨distinct, notFinal, ?_⟩
          intro other other_mem
          exact ⟨fun same => isNew (same ▸ other_mem), apart other other_mem⟩

theorem exists_of_firstConflict? (found : firstConflict? seen names = some conflict) :
    ∃ before after, names = before ++ conflict :: after ∧ firstConflict? seen before = none ∧
      (conflict = "getClass" ∨ conflict ∈ seen ∨ conflict ∈ before) := by
  induction names generalizing seen with
  | nil => cases found
  | cons name names ih =>
      rw [firstConflict?] at found
      split at found
      · rename_i isConflict
        cases found
        refine ⟨[], names, rfl, rfl, ?_⟩
        simpa [finalMethods] using isConflict
      · rename_i noConflict
        rcases ih found with ⟨before, after, rfl, free, isConflict⟩
        refine ⟨name :: before, after, rfl, ?_, ?_⟩
        · rw [firstConflict?, if_neg noConflict, free]
        · simp only [List.mem_cons] at isConflict ⊢
          tauto

theorem checkMethods_eq_ok_iff : description.checkMethods = .ok () ↔
    (description.methods.map (·.name)).Nodup ∧
      "getClass" ∉ description.methods.map (·.name) := by
  have noConflict_iff : description.checkMethods = .ok () ↔
      firstConflict? [] (description.methods.map (·.name)) = none := by
    unfold checkMethods
    cases firstConflict? [] (description.methods.map (·.name)) <;> simp
  rw [noConflict_iff, firstConflict?_eq_none_iff]
  simp

theorem checkMethods_eq_error {error : GenerationError}
    (failed : description.checkMethods = .error error) :
    ∃ method, IsFirstConflict (description.methods.map (·.name)) method ∧
      error = .methodConflict description.name method := by
  unfold checkMethods at failed
  split at failed
  · rename_i method found
    cases failed
    rcases exists_of_firstConflict? found with ⟨before, after, split, free, isConflict⟩
    rcases firstConflict?_eq_none_iff.mp free with ⟨distinct, notFinal, -⟩
    exact ⟨method, ⟨before, after, split, distinct, notFinal, by simpa using isConflict⟩, rfl⟩
  · cases failed

/-- The check finds the first method in conflict, in a class whose fields have a conflict. -/
theorem checkMethods_of_hasConflict {fields : List Field} {further : List String}
    (methods : description.methods.map (·.name) = methodNames fields ++ further)
    (conflict : HasConflict fields further) :
    ∃ method, IsFirstConflict (methodNames fields ++ further) method ∧
      description.checkMethods = .error (.methodConflict description.name method) := by
  cases checked : description.checkMethods with
  | error error =>
      rcases checkMethods_eq_error checked with ⟨method, first, rfl⟩
      rw [methods] at first
      exact ⟨method, first, rfl⟩
  | ok =>
      rcases checkMethods_eq_ok_iff.mp checked with ⟨distinct, notFinal⟩
      rw [methods, List.nodup_append] at distinct
      rw [methods, List.mem_append, not_or] at notFinal
      rcases conflict with sameMember | sameMethod | ⟨name, name_mem, clash⟩
      · exact absurd (nodup_memberNames distinct.1) sameMember
      · exact absurd distinct.1 sameMethod
      · rcases List.mem_cons.mp clash with rfl | isFurther
        · exact absurd name_mem notFinal.1
        · exact absurd rfl (distinct.2.2 name name_mem name isFurther)

/-- A class declares no name twice, and no method that it cannot declare. -/
structure DeclaresOnce (description : ClassDescription) : Prop where
  members : (description.members.map (·.name)).Nodup
  methods : (description.methods.map (·.name)).Nodup
  notFinal : "getClass" ∉ description.methods.map (·.name)

end ClassDescription

section ResolvedLists

variable {context : ClassContext} {fields : List Field} {resolvedFields : List ResolvedField}

theorem ResolvedField.names_of_resolve {attributes : FieldAttributes} {field : ResolvedField}
    (resolved : resolve context attributes = .ok field) :
    field.attributes = attributes ∧ field.member = memberName attributes.name := by
  rcases resolve_eq_ok_iff.mp resolved with ⟨_, _, _, _, _, -, -, -, -, -, rfl⟩
  exact ⟨rfl, rfl⟩

theorem map_member_of_mapM (resolved : (fields.mapM fun field =>
      ResolvedField.resolve context field.toFieldAttributes) = .ok resolvedFields) :
    resolvedFields.map (·.member) = memberNames fields :=
  Except.map_eq_of_mapM (fun isResolved => (ResolvedField.names_of_resolve isResolved).2) resolved

theorem map_name_accessors_of_mapM (resolved : (fields.mapM fun field =>
      ResolvedField.resolve context field.toFieldAttributes) = .ok resolvedFields)
    (scope : VersionSet) (ceiling : Version) :
    (resolvedFields.flatMap fun field => field.accessors scope ceiling).map (·.name) =
      methodNames fields := by
  have names : (resolvedFields.map fun field => accessorNames field.attributes.name) =
      fields.map fun field => accessorNames field.name :=
    Except.map_eq_of_mapM (fun isResolved => by rw [(ResolvedField.names_of_resolve isResolved).1])
      resolved
  rw [List.map_flatMap]
  exact congrArg List.flatten names

end ResolvedLists

end MessageGen
