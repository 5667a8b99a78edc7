import MessageGen.Proofs.Class.Conflicts
import MessageGen.Proofs.Structure.Definition

/-!
# The files that a run records

A successful run records the class files of the kept definitions, in the order in which
they are kept. Along the way every structure that a field names becomes known to the
registry: it is recorded when the run has passed its definition, or it is referred to.
-/

namespace MessageGen

/-- The file with the class of a definition; its fields are resolved, and its versions too. -/
def CommonStructure.classFile (context : ClassContext) (definition : CommonStructure) :
    Except GenerationError GeneratedFile := do
  let versions ←
    ResolvedField.resolveWithin context definition.versions context.validVersions
  let fields ← definition.fields.mapM fun field =>
    ResolvedField.resolve context field.toFieldAttributes
  return ⟨context.filePath definition.name, definition.name,
    (structureClass context definition.name versions fields).source⟩

namespace StructureRegistry

variable {registry : StructureRegistry} {name : String}

/-- The names of the structures that are recorded or referred to. -/
def known (registry : StructureRegistry) : List String :=
  registry.files.map (·.className) ++ registry.references.map (·.structureName)

theorem contains_iff_mem : registry.contains name = true ↔
    name ∈ registry.files.map (·.className) := by
  simp only [contains, List.any_eq_true, beq_iff_eq, List.mem_map]

theorem mem_known_of_contains (recorded : registry.contains name = true) :
    name ∈ registry.known :=
  List.mem_append_left _ (contains_iff_mem.mp recorded)

theorem mem_known_record {file : GeneratedFile} :
    name ∈ (registry.record file).known ↔ name = file.className ∨ name ∈ registry.known := by
  unfold record
  split
  · rename_i recorded
    constructor
    · exact Or.inr
    · rintro (rfl | mem)
      · exact mem_known_of_contains recorded
      · exact mem
  · simp only [known, List.map_append, List.map_singleton, List.mem_append, List.mem_singleton]
    tauto

theorem mem_known_require {structureName field : String} :
    name ∈ (registry.require structureName field).known ↔
      name = structureName ∨ name ∈ registry.known := by
  unfold require
  split
  · rename_i required
    simp only [List.any_eq_true, beq_iff_eq] at required
    constructor
    · exact Or.inr
    · rintro (rfl | mem)
      · rcases required with ⟨reference, reference_mem, rfl⟩
        exact List.mem_append_right _ (List.mem_map_of_mem reference_mem)
      · exact mem
  · simp only [known, List.map_append, List.map_singleton, List.mem_append, List.mem_singleton]
    tauto

@[simp]
theorem files_require (structureName field : String) :
    (registry.require structureName field).files = registry.files := by
  unfold require
  split <;> rfl

theorem leastReference?_eq_none_iff {references : List StructureReference} :
    leastReference? references = none ↔ references = [] := by
  cases references with
  | nil => simp [leastReference?]
  | cons reference references =>
      simp only [leastReference?, reduceCtorEq, iff_false]
      split
      · simp
      · split <;> simp

theorem checkReferences_eq_ok_iff : registry.checkReferences = .ok () ↔
    ∀ reference ∈ registry.references, registry.contains reference.structureName = true := by
  have resolved_iff : registry.checkReferences = .ok () ↔ registry.unresolved = [] := by
    rw [← leastReference?_eq_none_iff, checkReferences]
    cases leastReference? registry.unresolved <;> simp
  rw [resolved_iff, unresolved, List.filter_eq_nil_iff]
  simp

end StructureRegistry

variable {context : ClassContext} {registry final : StructureRegistry}
  {kept : List CommonStructure} {definition : CommonStructure} {file : GeneratedFile}
  {versions : VersionSet} {fields : List Field} {resolvedFields : List ResolvedField}
  {name : String}

namespace CommonStructure

theorem classFile_eq_ok_iff : definition.classFile context = .ok file ↔
    ∃ versions, ResolvedField.resolveWithin context definition.versions context.validVersions =
        .ok versions ∧
      ∃ fields, (definition.fields.mapM fun field =>
          ResolvedField.resolve context field.toFieldAttributes) = .ok fields ∧
        ⟨context.filePath definition.name, definition.name,
          (structureClass context definition.name versions fields).source⟩ = file := by
  simp only [classFile, Except.bind_eq_ok_iff, Except.pure_eq_ok_iff]

theorem className_of_classFile (made : definition.classFile context = .ok file) :
    file.className = definition.name := by
  rcases classFile_eq_ok_iff.mp made with ⟨versions, -, fields, -, rfl⟩
  rfl

theorem path_of_classFile (made : definition.classFile context = .ok file) :
    file.path = context.filePath definition.name := by
  rcases classFile_eq_ok_iff.mp made with ⟨versions, -, fields, -, rfl⟩
  rfl

end CommonStructure

open CommonStructure

/--
The registry holds the class files of the kept definitions and knows what their fields name,
and the accessors of these fields can be declared.
-/
structure StructureRegistry.Accounts (registry : StructureRegistry) (context : ClassContext)
    (kept : List CommonStructure) : Prop where
  files : kept.mapM (classFile context) = .ok registry.files
  named : ∀ definition ∈ kept, ∀ field ∈ definition.fields, ∀ name,
    field.structureName? = some name → name ∈ registry.known
  accessors : ∀ definition ∈ kept, HasDistinctAccessors definition.fields

namespace StructureRegistry.Accounts

theorem contains_eq_isKept (accounts : registry.Accounts context kept) (name : String) :
    registry.contains name = isKept kept name := by
  rw [Bool.eq_iff_iff, contains_iff_mem, isKept_iff_mem,
    Except.map_eq_of_mapM className_of_classFile accounts.files]

theorem require (accounts : registry.Accounts context kept) (structureName field : String) :
    (registry.require structureName field).Accounts context kept where
  files := by rw [files_require, accounts.files]
  named definition definition_mem field field_mem name names :=
    mem_known_require.mpr (Or.inr (accounts.named definition definition_mem field field_mem name
      names))
  accessors := accounts.accessors

theorem record (accounts : registry.Accounts context kept)
    (made : definition.classFile context = .ok file)
    (named : ∀ field ∈ definition.fields, ∀ name, field.structureName? = some name →
      name ∈ registry.known)
    (accessors : HasDistinctAccessors definition.fields) :
    (registry.record file).Accounts context (keep kept definition) := by
  have recorded_iff := accounts.contains_eq_isKept file.className
  rw [className_of_classFile made] at recorded_iff
  constructor
  · unfold keep StructureRegistry.record
    rw [className_of_classFile made, recorded_iff]
    cases isKept kept definition.name with
    | true => exact accounts.files
    | false =>
        simp only [Bool.false_eq_true, if_false, List.mapM_append, List.mapM_cons, List.mapM_nil,
          accounts.files, made]
        rfl
  · intro other other_mem field field_mem name names
    refine mem_known_record.mpr (Or.inr ?_)
    rcases mem_of_mem_keep other_mem with old | rfl
    · exact accounts.named other old field field_mem name names
    · exact named field field_mem name names
  · intro other other_mem
    rcases mem_of_mem_keep other_mem with old | rfl
    · exact accounts.accessors other old
    · exact accessors

end StructureRegistry.Accounts

theorem structureName?_of_resolve {attributes : FieldAttributes} {field : ResolvedField}
    (resolved : ResolvedField.resolve context attributes = .ok field) :
    attributes.structureName? = field.type.structureName? := by
  rcases ResolvedField.resolve_eq_ok_iff.mp resolved with
    ⟨type, _, _, _, _, hasType, _, _, _, _, rfl⟩
  simp [FieldAttributes.structureName?, hasType, Except.toOption]

theorem versions_of_resolve {attributes : FieldAttributes} {field : ResolvedField}
    (resolved : ResolvedField.resolve context attributes = .ok field) :
    ResolvedField.resolveWithin context attributes.versions context.validVersions =
      .ok field.versions := by
  rcases ResolvedField.resolve_eq_ok_iff.mp resolved with
    ⟨_, versions, _, _, _, _, hasVersions, _, _, _, rfl⟩
  exact hasVersions

section StructureClass

variable (resolved : (fields.mapM fun field =>
  ResolvedField.resolve context field.toFieldAttributes) = .ok resolvedFields)

include resolved

theorem map_name_members_structureClass :
    (structureClass context name versions resolvedFields).members.map (·.name) =
      memberNames fields := by
  rw [← map_member_of_mapM resolved]
  simp [structureClass, ClassDescription.withFields, ResolvedField.memberDeclaration]

theorem map_name_methods_structureClass :
    (structureClass context name versions resolvedFields).methods.map (·.name) =
      methodNames fields :=
  map_name_accessors_of_mapM resolved versions context.maxVersion

theorem checkMethods_structureClass_eq_ok_iff :
    (structureClass context name versions resolvedFields).checkMethods = .ok () ↔
      HasDistinctAccessors fields := by
  rw [ClassDescription.checkMethods_eq_ok_iff, map_name_methods_structureClass resolved]
  rfl

end StructureClass

theorem mapM_resolve_of_emitFields
    (run : (emitFields context fields).runWith registry = (.ok resolvedFields, final)) :
    (fields.mapM fun field => ResolvedField.resolve context field.toFieldAttributes) =
      .ok resolvedFields := by
  induction fields generalizing registry resolvedFields with
  | nil =>
      cases run
      rfl
  | cons field fields ih =>
      rcases field with ⟨attributes, inner⟩
      rcases emitFields_cons_eq_ok_iff.mp run with
        ⟨resolved, middle, rest, hasResolved, -, continued, rfl⟩
      rw [List.mapM_cons, hasResolved, ih continued]
      rfl

/-- A field with fields of its own makes the structure that its type names. -/
theorem exists_emitStructure_of_emitFields {attributes : FieldAttributes} {inner : List Field}
    (run : (emitFields context (⟨attributes, some inner⟩ :: fields)).runWith registry =
      (.ok resolvedFields, final)) :
    ∃ name versions middle rest, attributes.structureName? = some name ∧
      ResolvedField.resolveWithin context attributes.versions context.validVersions =
        .ok versions ∧
      (emitStructure context name versions (emitFields context inner)).runWith registry =
        (.ok (), middle) ∧
      (emitFields context fields).runWith middle = (.ok rest, final) := by
  rcases emitFields_cons_eq_ok_iff.mp run with
    ⟨resolved, middle, rest, hasResolved, nested, continued, -⟩
  rcases emitNested_some_eq_ok_iff.mp nested with ⟨name, hasName, made⟩
  exact ⟨name, resolved.versions, middle, rest,
    (structureName?_of_resolve hasResolved).trans hasName, versions_of_resolve hasResolved, made,
    continued⟩

theorem known_of_emitStructure
    (inside : ∀ {registry final resolvedFields},
      (emitFields context fields).runWith registry = (.ok resolvedFields, final) →
        ∀ name ∈ registry.known, name ∈ final.known)
    (run : (emitStructure context name versions (emitFields context fields)).runWith registry =
      (.ok (), final)) :
    name ∈ final.known ∧ ∀ name ∈ registry.known, name ∈ final.known := by
  rcases emitStructure_eq_ok_iff.mp run with
    ⟨recorded, rfl⟩ | ⟨-, resolvedFields, middle, innerRun, -, rfl⟩
  · exact ⟨StructureRegistry.mem_known_of_contains recorded, fun _ known => known⟩
  · refine ⟨StructureRegistry.mem_known_record.mpr (Or.inl rfl), ?_⟩
    intro other known
    exact StructureRegistry.mem_known_record.mpr (Or.inr (inside innerRun other known))

theorem known_of_emitNested_none {attributes : FieldAttributes} {resolved : ResolvedField}
    (run : (emitNested context attributes resolved none).runWith registry = (.ok (), final)) :
    (∀ name, resolved.type.structureName? = some name → name ∈ final.known) ∧
      ∀ name ∈ registry.known, name ∈ final.known := by
  rw [emitNested_none_eq_ok_iff] at run
  subst run
  cases resolved.type.structureName? with
  | none => simp
  | some structureName => simp +contextual [StructureRegistry.mem_known_require]

/--
After a run over a list of fields the structures that they name are known, and so is
everything that was known before.
-/
theorem known_of_emitFields (run : (emitFields context fields).runWith registry =
    (.ok resolvedFields, final)) :
    (∀ field ∈ fields, ∀ name, field.structureName? = some name → name ∈ final.known) ∧
      ∀ name ∈ registry.known, name ∈ final.known := by
  induction fields using Field.list_induction generalizing registry final resolvedFields with
  | nil =>
      cases run
      exact ⟨fun field field_mem => absurd field_mem List.not_mem_nil, fun _ known => known⟩
  | plain attributes fields ih =>
      rcases emitFields_cons_eq_ok_iff.mp run with
        ⟨resolved, middle, rest, hasResolved, nested, continued, -⟩
      rcases known_of_emitNested_none nested with ⟨named, kept⟩
      rcases ih continued with ⟨restNamed, restKept⟩
      refine ⟨?_, fun name known => restKept name (kept name known)⟩
      intro field field_mem name names
      rcases List.mem_cons.mp field_mem with rfl | field_mem
      · rw [structureName?_of_resolve hasResolved] at names
        exact restKept name (named name names)
      · exact restNamed field field_mem name names
  | nested attributes inner fields ihInner ih =>
      rcases exists_emitStructure_of_emitFields run with
        ⟨structureName, versions, middle, rest, hasName, -, made, continued⟩
      rcases known_of_emitStructure (fun innerRun => (ihInner innerRun).2) made with
        ⟨isKnown, kept⟩
      rcases ih continued with ⟨restNamed, restKept⟩
      refine ⟨?_, fun name known => restKept name (kept name known)⟩
      intro field field_mem name names
      rcases List.mem_cons.mp field_mem with rfl | field_mem
      · cases hasName.symm.trans names
        exact restKept structureName isKnown
      · exact restNamed field field_mem name names

theorem StructureRegistry.Accounts.of_emitNested_none {attributes : FieldAttributes}
    {resolved : ResolvedField} (accounts : registry.Accounts context kept)
    (run : (emitNested context attributes resolved none).runWith registry = (.ok (), final)) :
    final.Accounts context kept := by
  rw [emitNested_none_eq_ok_iff] at run
  subst run
  cases resolved.type.structureName? with
  | none => exact accounts
  | some structureName => exact accounts.require structureName attributes.name

theorem accounts_of_emitStructure (definition : CommonStructure)
    (inside : ∀ {registry final kept resolvedFields},
      (emitFields context definition.fields).runWith registry = (.ok resolvedFields, final) →
        registry.Accounts context kept →
        final.Accounts context (keepFields definition.fields kept))
    (hasVersions : ResolvedField.resolveWithin context definition.versions
      context.validVersions = .ok versions)
    (run : (emitStructure context definition.name versions
      (emitFields context definition.fields)).runWith registry = (.ok (), final))
    (accounts : registry.Accounts context kept) :
    final.Accounts context (keepAfter (keepFields definition.fields) kept definition) := by
  unfold keepAfter
  rw [← accounts.contains_eq_isKept]
  rcases emitStructure_eq_ok_iff.mp run with
    ⟨recorded, rfl⟩ | ⟨isNew, resolvedFields, middle, innerRun, checked, rfl⟩
  · rwa [if_pos recorded]
  · rw [if_neg (by simp [isNew])]
    have resolved := mapM_resolve_of_emitFields innerRun
    refine (inside innerRun accounts).record ?_ (known_of_emitFields innerRun).1 ?_
    · exact classFile_eq_ok_iff.mpr ⟨versions, hasVersions, resolvedFields, resolved, rfl⟩
    · exact (checkMethods_structureClass_eq_ok_iff resolved).mp checked

/-- After a run over a list of fields the registry holds the files of the definitions kept then. -/
theorem accounts_of_emitFields (run : (emitFields context fields).runWith registry =
    (.ok resolvedFields, final)) (accounts : registry.Accounts context kept) :
    final.Accounts context (keepFields fields kept) := by
  induction fields using Field.list_induction generalizing registry final resolvedFields kept with
  | nil =>
      cases run
      exact accounts
  | plain attributes fields ih =>
      rcases emitFields_cons_eq_ok_iff.mp run with ⟨resolved, middle, rest, -, nested, continued, -⟩
      exact ih continued (accounts.of_emitNested_none nested)
  | nested attributes inner fields ihInner ih =>
      rcases exists_emitStructure_of_emitFields run with
        ⟨structureName, versions, middle, rest, hasName, hasVersions, made, continued⟩
      rw [keepFields_named hasName]
      exact ih continued (accounts_of_emitStructure ⟨structureName, attributes.versions, inner⟩
        ihInner hasVersions made accounts)

end MessageGen
