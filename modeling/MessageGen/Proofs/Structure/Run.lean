import MessageGen.Proofs.Outcome
import MessageGen.Structure.Emission

/-!
# Runs of an emission

What a step of a run does to the registry is stated once, by what a successful run of it
says about its parts. A structure that is recorded already is passed over; otherwise its
fields are resolved first, its class is checked, and its file is recorded last.
-/

namespace MessageGen

/-- Induction over a list of fields and the lists of fields inside it. -/
theorem Field.list_induction {motive : List Field → Prop} (nil : motive [])
    (plain : ∀ attributes fields, motive fields → motive (⟨attributes, none⟩ :: fields))
    (nested : ∀ attributes inner fields, motive inner → motive fields →
      motive (⟨attributes, some inner⟩ :: fields)) : ∀ fields, motive fields
  | [] => nil
  | ⟨attributes, none⟩ :: fields => plain attributes fields (list_induction nil plain nested fields)
  | ⟨attributes, some inner⟩ :: fields =>
    nested attributes inner fields (list_induction nil plain nested inner)
      (list_induction nil plain nested fields)

namespace Emission

variable {α β : Type} {registry final : StructureRegistry}

@[simp]
theorem runWith_pure (value : α) :
    (pure value : Emission α).runWith registry = (.ok value, registry) :=
  rfl

@[simp]
theorem runWith_get :
    (get : Emission StructureRegistry).runWith registry = (.ok registry, registry) :=
  rfl

@[simp]
theorem runWith_modify (change : StructureRegistry → StructureRegistry) :
    (modify change : Emission Unit).runWith registry = (.ok (), change registry) :=
  rfl

@[simp]
theorem runWith_throw (error : GenerationError) :
    (throw error : Emission α).runWith registry = (.error error, registry) :=
  rfl

@[simp]
theorem runWith_ofExcept (result : Except GenerationError α) :
    (ofExcept result).runWith registry = (result, registry) := by
  cases result <;> rfl

theorem runWith_bind (emission : Emission α) (next : α → Emission β) :
    (emission >>= next).runWith registry =
      match emission.runWith registry with
      | (.ok value, middle) => (next value).runWith middle
      | (.error error, middle) => (.error error, middle) := by
  change StateT.run (ExceptT.run (emission >>= next)) registry = _
  rw [ExceptT.run_bind, StateT.run_bind]
  simp only [runWith]
  cases StateT.run (ExceptT.run emission) registry with
  | mk result middle => cases result <;> rfl

/-- A sequence of steps succeeds exactly if each step does, from the registry of the one before. -/
theorem runWith_bind_eq_ok_iff {emission : Emission α} {next : α → Emission β} {result : β} :
    (emission >>= next).runWith registry = (.ok result, final) ↔
      ∃ value middle, emission.runWith registry = (.ok value, middle) ∧
        (next value).runWith middle = (.ok result, final) := by
  rw [runWith_bind]
  cases emission.runWith registry with
  | mk outcome middle =>
      cases outcome with
      | error error => simp
      | ok value =>
          simp only [Prod.mk.injEq, Except.ok.injEq]
          constructor
          · intro continued
            exact ⟨value, middle, ⟨rfl, rfl⟩, continued⟩
          · rintro ⟨_, _, ⟨rfl, rfl⟩, continued⟩
            exact continued

theorem exists_run_of_isOk {emission : Emission α}
    (succeeds : (emission.runWith registry).1.isOk = true) :
    ∃ value final, emission.runWith registry = (.ok value, final) := by
  rcases Except.exists_ok_of_isOk succeeds with ⟨value, hasValue⟩
  exact ⟨value, _, Prod.ext hasValue rfl⟩

end Emission

open Emission

variable {context : ClassContext} {name : String} {versions : VersionSet}
  {registry final : StructureRegistry}

theorem runWith_emitStructure_of_recorded {resolveFields : Emission (List ResolvedField)}
    (recorded : registry.contains name = true) :
    (emitStructure context name versions resolveFields).runWith registry =
      (.ok (), registry) := by
  rw [emitStructure, runWith_bind, runWith_get]
  simp only [recorded, if_true, runWith_pure]

theorem runWith_emitStructure_of_new {resolveFields : Emission (List ResolvedField)}
    (isNew : registry.contains name = false) :
    (emitStructure context name versions resolveFields).runWith registry =
      match resolveFields.runWith registry with
      | (.error error, middle) => (.error error, middle)
      | (.ok fields, middle) =>
        match (structureClass context name versions fields).checkMethods with
        | .error error => (.error error, middle)
        | .ok () => (.ok (), middle.record ⟨context.filePath name, name,
            (structureClass context name versions fields).source⟩) := by
  rw [emitStructure, runWith_bind, runWith_get]
  simp only [isNew, Bool.false_eq_true, if_false, runWith_bind]
  cases resolveFields.runWith registry with
  | mk outcome middle =>
      cases outcome with
      | error error => rfl
      | ok fields =>
          simp only [runWith_ofExcept]
          cases (structureClass context name versions fields).checkMethods <;> rfl

/-- A structure is passed over if it is recorded, and otherwise made from its fields. -/
theorem emitStructure_eq_ok_iff {resolveFields : Emission (List ResolvedField)} :
    (emitStructure context name versions resolveFields).runWith registry = (.ok (), final) ↔
      (registry.contains name = true ∧ registry = final) ∨
      (registry.contains name = false ∧ ∃ fields middle,
        resolveFields.runWith registry = (.ok fields, middle) ∧
        (structureClass context name versions fields).checkMethods = .ok () ∧
        middle.record ⟨context.filePath name, name,
          (structureClass context name versions fields).source⟩ = final) := by
  cases recorded : registry.contains name with
  | true => simp [runWith_emitStructure_of_recorded recorded]
  | false =>
      simp only [runWith_emitStructure_of_new recorded, Bool.false_eq_true, false_and, true_and,
        false_or]
      cases resolveFields.runWith registry with
      | mk outcome middle =>
          cases outcome with
          | error error => simp
          | ok fields =>
              cases checked : (structureClass context name versions fields).checkMethods with
              | error error => simp [checked]
              | ok => simp [checked]

/-- A list of fields is resolved field by field; what a field defines or names comes after it. -/
theorem emitFields_cons_eq_ok_iff {attributes : FieldAttributes} {inner : Option (List Field)}
    {fields : List Field} {resolvedFields : List ResolvedField} :
    (emitFields context (⟨attributes, inner⟩ :: fields)).runWith registry =
        (.ok resolvedFields, final) ↔
      ∃ resolved middle rest, ResolvedField.resolve context attributes = .ok resolved ∧
        (emitNested context attributes resolved inner).runWith registry = (.ok (), middle) ∧
        (emitFields context fields).runWith middle = (.ok rest, final) ∧
        resolved :: rest = resolvedFields := by
  simp only [emitFields, emitField, runWith_bind_eq_ok_iff, runWith_ofExcept, runWith_pure,
    Prod.mk.injEq, Except.ok.injEq]
  constructor
  · rintro ⟨_, _, ⟨resolved, _, ⟨hasResolved, rfl⟩, _, middle, nested, rfl, rfl⟩, rest, _,
      continued, rfl, rfl⟩
    exact ⟨resolved, middle, rest, hasResolved, nested, continued, rfl⟩
  · rintro ⟨resolved, middle, rest, hasResolved, nested, continued, rfl⟩
    exact ⟨resolved, middle, ⟨resolved, registry, ⟨hasResolved, rfl⟩, (), middle, nested, rfl, rfl⟩,
      rest, final, continued, rfl, rfl⟩

theorem emitNested_none_eq_ok_iff {attributes : FieldAttributes} {resolved : ResolvedField} :
    (emitNested context attributes resolved none).runWith registry = (.ok (), final) ↔
      (match resolved.type.structureName? with
        | some name => registry.require name attributes.name
        | none => registry) = final := by
  cases found : resolved.type.structureName? <;> simp [emitNested, found]

theorem emitNested_some_eq_ok_iff {attributes : FieldAttributes} {resolved : ResolvedField}
    {fields : List Field} :
    (emitNested context attributes resolved (some fields)).runWith registry = (.ok (), final) ↔
      ∃ name, resolved.type.structureName? = some name ∧
        (emitStructure context name resolved.versions (emitFields context fields)).runWith
          registry = (.ok (), final) := by
  cases found : resolved.type.structureName? <;> simp [emitNested, found]

end MessageGen
