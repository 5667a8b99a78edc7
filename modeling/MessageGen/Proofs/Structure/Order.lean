import MessageGen.Proofs.Structure.Coverage

/-!
# The order of kept definitions

A definition is kept when the definitions inside it are done, so whatever its fields
define in place stands in front of it. Only what is inside a definition passed over
need not be there. A definition that is defined again inside itself is not kept, since
its name is taken by then.
-/

namespace MessageGen

open CommonStructure

variable {context : ClassContext} {registry final : StructureRegistry}
  {kept passed before : List CommonStructure} {definition : CommonStructure} {fields : List Field}
  {resolvedFields : List ResolvedField}

/-- What a definition defines inside it is kept before it, or was passed over. -/
structure ComesAfter (passed before : List CommonStructure) (definition : CommonStructure) :
    Prop where
  direct : ∀ field ∈ definition.fields, field.fields.isSome →
    ∀ name, field.structureName? = some name → isKept before name = true
  inside : ∀ inner ∈ definitionsWithin definition.fields,
    isKept before inner.name = true ∨ ∃ other ∈ passed, inner ∈ definitionsWithin other.fields

/-- Every definition of a list comes after those inside it. -/
def IsOrdered (passed kept : List CommonStructure) : Prop :=
  ∀ before definition, before ++ [definition] <+: kept → ComesAfter passed before definition

theorem isOrdered_nil (passed : List CommonStructure) : IsOrdered passed [] := by
  intro before definition isPrefix
  exact absurd (List.prefix_nil.mp isPrefix) (List.append_ne_nil_of_right_ne_nil _ (by simp))

theorem IsOrdered.keep (ordered : IsOrdered passed kept)
    (comesAfter : ComesAfter passed kept definition) :
    IsOrdered passed (keep kept definition) := by
  unfold CommonStructure.keep
  split
  · exact ordered
  · intro before other isPrefix
    rcases List.prefix_concat_iff.mp isPrefix with same | isPrefix
    · rcases List.append_inj' same rfl with ⟨rfl, sameLast⟩
      cases List.singleton_inj.mp sameLast
      exact comesAfter
    · exact ordered before other isPrefix

theorem isKept_keepAfter (inside : List CommonStructure → List CommonStructure)
    (kept : List CommonStructure) (definition : CommonStructure) :
    isKept (keepAfter inside kept definition) definition.name = true := by
  unfold keepAfter
  split
  · assumption
  · exact isKept_keep.mpr (Or.inl rfl)

/-- The structures that the fields of a list define in place are kept once the list is done. -/
theorem isKept_keepFields_of_mem {field : Field} {name : String} (field_mem : field ∈ fields)
    (hasFields : field.fields.isSome) (hasName : field.structureName? = some name) :
    isKept (keepFields fields kept) name = true := by
  induction fields generalizing kept with
  | nil => exact absurd field_mem List.not_mem_nil
  | cons first fields ih =>
      rcases List.mem_cons.mp field_mem with rfl | field_mem
      · rcases field with ⟨attributes, _ | inner⟩
        · exact absurd hasFields Bool.false_ne_true
        · rw [keepFields_named hasName]
          exact isKept_keepFields fields _ name (isKept_keepAfter _ _ _)
      · exact ih field_mem

/-- A definition that a run makes comes after what the run over its fields has kept. -/
theorem comesAfter_of_emitFields (run : (emitFields context definition.fields).runWith registry =
    (.ok resolvedFields, final)) (accounts : registry.Accounts context kept)
    (isSubset : passedFields definition.fields kept ⊆ passed) :
    ComesAfter passed (keepFields definition.fields kept) definition where
  direct _ field_mem hasFields _ hasName := isKept_keepFields_of_mem field_mem hasFields hasName
  inside inner inner_mem := by
    rcases List.mem_filterMap.mp inner_mem with ⟨nested, nested_mem, isDefinition⟩
    rcases (reaches_of_emitFields run accounts nested nested_mem).isKept_or isDefinition with
      isKept | ⟨other, isPassed, inside⟩
    · exact Or.inl isKept
    · exact Or.inr ⟨other, isSubset isPassed, inside⟩

theorem isOrdered_of_emitStructure (definition : CommonStructure) {versions : VersionSet}
    (inside : ∀ {registry final kept resolvedFields},
      (emitFields context definition.fields).runWith registry = (.ok resolvedFields, final) →
        registry.Accounts context kept → passedFields definition.fields kept ⊆ passed →
        IsOrdered passed kept → IsOrdered passed (keepFields definition.fields kept))
    (run : (emitStructure context definition.name versions
      (emitFields context definition.fields)).runWith registry = (.ok (), final))
    (accounts : registry.Accounts context kept)
    (isSubset : passedAfter (passedFields definition.fields) kept definition ⊆ passed)
    (ordered : IsOrdered passed kept) :
    IsOrdered passed (keepAfter (keepFields definition.fields) kept definition) := by
  rcases emitStructure_eq_ok_iff.mp run with
    ⟨recorded, -⟩ | ⟨isNew, resolvedFields, middle, innerRun, -, -⟩
  · rw [accounts.contains_eq_isKept] at recorded
    rwa [keepAfter, if_pos recorded]
  · rw [accounts.contains_eq_isKept] at isNew
    rw [passedAfter, isNew, if_neg Bool.false_ne_true] at isSubset
    rw [keepAfter, isNew, if_neg Bool.false_ne_true]
    exact (inside innerRun accounts isSubset ordered).keep
      (comesAfter_of_emitFields innerRun accounts isSubset)

/-- A run over a list of fields keeps definitions in order. -/
theorem isOrdered_of_emitFields (run : (emitFields context fields).runWith registry =
    (.ok resolvedFields, final)) (accounts : registry.Accounts context kept)
    (isSubset : passedFields fields kept ⊆ passed) (ordered : IsOrdered passed kept) :
    IsOrdered passed (keepFields fields kept) := by
  induction fields using Field.list_induction generalizing registry final resolvedFields kept with
  | nil => exact ordered
  | plain attributes fields ih =>
      rcases emitFields_cons_eq_ok_iff.mp run with ⟨resolved, middle, rest, -, first, continued, -⟩
      exact ih continued (accounts.of_emitNested_none first) isSubset ordered
  | nested attributes inner fields ihInner ih =>
      rcases exists_emitStructure_of_emitFields run with
        ⟨structureName, versions, middle, rest, hasName, hasVersions, made, continued⟩
      rw [passedFields_named hasName, List.append_subset] at isSubset
      rw [keepFields_named hasName]
      apply ih continued _ isSubset.2
      · exact isOrdered_of_emitStructure ⟨structureName, attributes.versions, inner⟩ ihInner made
          accounts isSubset.1 ordered
      · exact accounts_of_emitStructure ⟨structureName, attributes.versions, inner⟩
          accounts_of_emitFields hasVersions made accounts

end MessageGen
