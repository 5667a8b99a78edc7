import MessageGen.Proofs.Structure.Files
import MessageGen.Proofs.Structure.PassedOver

/-!
# What a successful run covers

A run that succeeds has resolved every field it came to, and checked the accessors of
every list of fields. It comes to each definition of a document unless that is inside
one that it passes over. The name of a definition that it comes to is recorded, whether
it makes the class or passes the definition over.
-/

namespace MessageGen

variable {context : ClassContext} {registry final : StructureRegistry}
  {kept passed : List CommonStructure} {fields : List Field}
  {resolvedFields : List ResolvedField}

/--
A list of fields has nothing wrong with it: each field resolves, it has fields of its
own only if its type names a structure, and a class can declare all accessors.
-/
structure FieldsValid (context : ClassContext) (fields : List Field) : Prop where
  accepted : ∃ resolvedFields, (fields.mapM fun field =>
      ResolvedField.resolve context field.toFieldAttributes) = .ok resolvedFields ∧
    ∀ name versions,
      (structureClass context name versions resolvedFields).checkMethods = .ok ()
  named : ∀ field ∈ fields, field.fields.isSome → field.structureName?.isSome

theorem fieldsValid_iff : FieldsValid context fields ↔
    (∀ field ∈ fields, (ResolvedField.resolve context field.toFieldAttributes).isOk = true ∧
      (field.fields.isSome → field.structureName?.isSome)) ∧
    HasDistinctAccessors fields := by
  constructor
  · rintro ⟨⟨resolvedFields, resolved, checked⟩, named⟩
    refine ⟨?_, (checkMethods_structureClass_eq_ok_iff resolved).mp (checked "" .empty)⟩
    intro field field_mem
    rcases Except.exists_mapM_iff.mp ⟨resolvedFields, resolved⟩ field field_mem with ⟨_, isResolved⟩
    exact ⟨by rw [isResolved]; rfl, named field field_mem⟩
  · rintro ⟨valid, distinct⟩
    rcases Except.exists_mapM_iff.mpr fun field field_mem =>
      Except.exists_ok_of_isOk (valid field field_mem).1 with ⟨resolvedFields, resolved⟩
    refine ⟨⟨resolvedFields, resolved, ?_⟩, fun field field_mem => (valid field field_mem).2⟩
    exact fun name versions => (checkMethods_structureClass_eq_ok_iff resolved).mpr distinct

instance : Decidable (FieldsValid context fields) :=
  decidable_of_iff _ fieldsValid_iff.symm

theorem named_of_emitFields (run : (emitFields context fields).runWith registry =
    (.ok resolvedFields, final)) :
    ∀ field ∈ fields, field.fields.isSome → field.structureName?.isSome := by
  induction fields generalizing registry resolvedFields with
  | nil => simp
  | cons field fields ih =>
      rcases field with ⟨attributes, inner⟩
      rw [List.forall_mem_cons]
      cases inner with
      | none =>
          rcases emitFields_cons_eq_ok_iff.mp run with ⟨_, _, _, -, -, continued, -⟩
          exact ⟨fun absent => absurd absent Bool.false_ne_true, ih continued⟩
      | some inner =>
          rcases exists_emitStructure_of_emitFields run with ⟨_, _, _, _, hasName, -, -, continued⟩
          exact ⟨fun _ => by rw [hasName]; rfl, ih continued⟩

theorem fieldsValid_of_emitFields (run : (emitFields context fields).runWith registry =
    (.ok resolvedFields, final)) (distinct : HasDistinctAccessors fields) :
    FieldsValid context fields := by
  have resolved := mapM_resolve_of_emitFields run
  refine ⟨⟨resolvedFields, resolved, ?_⟩, named_of_emitFields run⟩
  exact fun name versions => (checkMethods_structureClass_eq_ok_iff resolved).mpr distinct

open CommonStructure

/--
A field with fields of its own is inside a definition passed over, or makes a definition
that a run came to: its name is kept, and its fields are valid unless it is passed over.
-/
def Reaches (context : ClassContext) (kept passed : List CommonStructure)
    (nested : FieldAttributes × List Field) : Prop :=
  (∃ definition ∈ passed, nested ∈ nestedFields definition.fields) ∨
    ∃ definition, nested.1.definition? nested.2 = some definition ∧
      isKept kept definition.name = true ∧
      (definition ∈ passed ∨ FieldsValid context definition.fields)

/-- A run came to a definition, and reaches what is inside it. -/
structure Covers (context : ClassContext) (kept passed : List CommonStructure)
    (definition : CommonStructure) : Prop where
  named : isKept kept definition.name = true
  valid : definition ∈ passed ∨ FieldsValid context definition.fields
  inside : ∀ nested ∈ nestedFields definition.fields, Reaches context kept passed nested

section Monotonicity

variable {keptLater passedLater : List CommonStructure} {definition : CommonStructure}
  {nested : FieldAttributes × List Field}
  (grows : ∀ name, isKept kept name = true → isKept keptLater name = true)
  (isSubset : passed ⊆ passedLater)

include grows isSubset

theorem Reaches.mono (reaches : Reaches context kept passed nested) :
    Reaches context keptLater passedLater nested := by
  rcases reaches with ⟨definition, isPassed, inside⟩ | ⟨definition, isDefinition, named, valid⟩
  · exact Or.inl ⟨definition, isSubset isPassed, inside⟩
  · exact Or.inr ⟨definition, isDefinition, grows _ named, valid.imp_left (isSubset ·)⟩

theorem Covers.mono (covers : Covers context kept passed definition) :
    Covers context keptLater passedLater definition where
  named := grows _ covers.named
  valid := covers.valid.imp_left (isSubset ·)
  inside nested nested_mem := (covers.inside nested nested_mem).mono grows isSubset

end Monotonicity

section Consequences

variable {definition : CommonStructure} {nested : FieldAttributes × List Field}

theorem fieldsValid_or_of_mem_passed
    (valid : definition ∈ passed ∨ FieldsValid context definition.fields) :
    FieldsValid context definition.fields ∨
      ∃ other ∈ passed, definition.fields ∈ listsOf other.fields :=
  valid.symm.imp_right fun isPassed => ⟨definition, isPassed, List.mem_cons_self⟩

theorem Reaches.fieldsValid_or (reaches : Reaches context kept passed nested) :
    FieldsValid context nested.2 ∨ ∃ other ∈ passed, nested.2 ∈ listsOf other.fields := by
  rcases reaches with ⟨other, isPassed, inside⟩ | ⟨definition, isDefinition, -, valid⟩
  · exact Or.inr ⟨other, isPassed, List.mem_cons_of_mem _ (List.mem_map_of_mem inside)⟩
  · rcases Option.map_eq_some_iff.mp isDefinition with ⟨name, -, rfl⟩
    exact fieldsValid_or_of_mem_passed valid

theorem Reaches.isKept_or (reaches : Reaches context kept passed nested)
    (isDefinition : nested.1.definition? nested.2 = some definition) :
    isKept kept definition.name = true ∨
      ∃ other ∈ passed, definition ∈ definitionsWithin other.fields := by
  rcases reaches with ⟨other, isPassed, inside⟩ | ⟨reached, isReached, named, -⟩
  · exact Or.inr ⟨other, isPassed, List.mem_filterMap.mpr ⟨nested, inside, isDefinition⟩⟩
  · cases isDefinition.symm.trans isReached
    exact Or.inl named

theorem Covers.fieldsValid_or (covers : Covers context kept passed definition)
    (fields_mem : fields ∈ listsOf definition.fields) :
    FieldsValid context fields ∨ ∃ other ∈ passed, fields ∈ listsOf other.fields := by
  rcases List.mem_cons.mp fields_mem with rfl | fields_mem
  · exact fieldsValid_or_of_mem_passed covers.valid
  · rcases List.mem_map.mp fields_mem with ⟨nested, nested_mem, rfl⟩
    exact (covers.inside nested nested_mem).fieldsValid_or

theorem Covers.isKept_or {inner : CommonStructure} (covers : Covers context kept passed definition)
    (inner_mem : inner ∈ definition.definitions) :
    isKept kept inner.name = true ∨ ∃ other ∈ passed, inner ∈ definitionsWithin other.fields := by
  rcases List.mem_cons.mp inner_mem with rfl | inner_mem
  · exact Or.inl covers.named
  · rcases List.mem_filterMap.mp inner_mem with ⟨nested, nested_mem, isDefinition⟩
    exact (covers.inside nested nested_mem).isKept_or isDefinition

end Consequences

/-- A definition is covered once it is done. -/
theorem covers_of_emitStructure (definition : CommonStructure) {versions : VersionSet}
    (inside : ∀ {registry final kept resolvedFields},
      (emitFields context definition.fields).runWith registry = (.ok resolvedFields, final) →
        registry.Accounts context kept → ∀ nested ∈ nestedFields definition.fields,
          Reaches context (keepFields definition.fields kept)
            (passedFields definition.fields kept) nested)
    (run : (emitStructure context definition.name versions
      (emitFields context definition.fields)).runWith registry = (.ok (), final))
    (accounts : registry.Accounts context kept) :
    Covers context (keepAfter (keepFields definition.fields) kept definition)
      (passedAfter (passedFields definition.fields) kept definition) definition := by
  rcases emitStructure_eq_ok_iff.mp run with
    ⟨recorded, rfl⟩ | ⟨isNew, resolvedFields, middle, innerRun, checked, -⟩
  -- a recorded name: nothing is looked at, so all that is inside is passed over with it
  · rw [accounts.contains_eq_isKept] at recorded
    rw [keepAfter, passedAfter, if_pos recorded, if_pos recorded]
    refine ⟨recorded, Or.inl List.mem_cons_self, ?_⟩
    exact fun nested nested_mem => Or.inl ⟨definition, List.mem_cons_self, nested_mem⟩
  · rw [accounts.contains_eq_isKept] at isNew
    rw [keepAfter, passedAfter, isNew, if_neg Bool.false_ne_true, if_neg Bool.false_ne_true]
    have distinct := (checkMethods_structureClass_eq_ok_iff
      (mapM_resolve_of_emitFields innerRun)).mp checked
    refine ⟨isKept_keep.mpr (Or.inl rfl), Or.inr ?_, ?_⟩
    · exact fieldsValid_of_emitFields innerRun distinct
    · intro nested nested_mem
      exact (inside innerRun accounts nested nested_mem).mono
        (fun name isKept => isKept_keep.mpr (Or.inr isKept)) (List.Subset.refl _)

/-- A run over a list of fields reaches all that is inside them, or passes it over. -/
theorem reaches_of_emitFields (run : (emitFields context fields).runWith registry =
    (.ok resolvedFields, final)) (accounts : registry.Accounts context kept) :
    ∀ nested ∈ nestedFields fields,
      Reaches context (keepFields fields kept) (passedFields fields kept) nested := by
  -- the registry decides what is passed over, so it runs along with the definitions kept in it
  induction fields using Field.list_induction generalizing registry final resolvedFields kept with
  | nil => exact fun nested nested_mem => absurd nested_mem List.not_mem_nil
  | plain attributes fields ih =>
      rcases emitFields_cons_eq_ok_iff.mp run with ⟨resolved, middle, rest, -, first, continued, -⟩
      exact ih continued (accounts.of_emitNested_none first)
  | nested attributes inner fields ihInner ih =>
      rcases exists_emitStructure_of_emitFields run with
        ⟨structureName, versions, middle, rest, hasName, hasVersions, made, continued⟩
      have later := accounts_of_emitStructure ⟨structureName, attributes.versions, inner⟩
        accounts_of_emitFields hasVersions made accounts
      have covers := covers_of_emitStructure ⟨structureName, attributes.versions, inner⟩ ihInner made
        accounts
      rw [keepFields_named hasName, passedFields_named hasName]
      simp only [nestedFields_nested, List.mem_cons, List.mem_append]
      rintro nested (rfl | inside | behind)
      · apply Reaches.mono (isKept_keepFields fields _) (List.subset_append_left _ _)
        refine Or.inr ⟨⟨structureName, attributes.versions, inner⟩, ?_, covers.named, covers.valid⟩
        simp only [FieldAttributes.definition?, hasName, Option.map_some]
      · exact (covers.inside nested inside).mono (isKept_keepFields fields _)
          (List.subset_append_left _ _)
      · exact (ih continued later nested behind).mono (fun _ isKept => isKept)
          (List.subset_append_right _ _)

end MessageGen
