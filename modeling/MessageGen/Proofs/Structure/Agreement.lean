import Mathlib.Data.List.Forall2
import MessageGen.Proofs.Class.Imports
import MessageGen.Proofs.Structure.Run

/-!
# Runs in two contexts of one document

Packages, directory and extension go into the text and the path of a class, and nothing
in a run looks at them. So two runs over one document, in contexts that may differ there,
go through the same steps: they fail at the same place with the same error, or their
classes differ in the package, in the names of imported runtime classes and in the path.
-/

namespace MessageGen

/-- Two contexts of one document; their packages, directories and extensions may differ. -/
structure ClassContext.SameDocument (first second : ClassContext) : Prop where
  sourceName : first.sourceName = second.sourceName
  validVersions : first.validVersions = second.validVersions
  flexibleVersions : first.flexibleVersions = second.flexibleVersions

/-- The classes of the standard library that a class can import. -/
def libraryClasses : List String :=
  ["java.util.ArrayList", "java.util.List", "java.util.UUID"]

/--
Two classes agree up to their packages: they import the same library classes, and the same
runtime classes, each under the runtime package of its context.
-/
structure ClassDescription.AgreesUpToPackages (firstContext secondContext : ClassContext)
    (first second : ClassDescription) : Prop where
  firstPackage : first.package = firstContext.package
  secondPackage : second.package = secondContext.package
  name : first.name = second.name
  baseClass : first.baseClass = second.baseClass
  docs : first.docs = second.docs
  members : first.members = second.members
  constructor : first.constructor = second.constructor
  methods : first.methods = second.methods
  imports : ∃ library runtime : List String, library ⊆ libraryClasses ∧
    first.imports = sortNames (library ++ runtime.map firstContext.runtimeClass) ∧
    second.imports = sortNames (library ++ runtime.map secondContext.runtimeClass)

/-- The file of a structure with the given resolved fields. -/
def structureFile (context : ClassContext) (name : String) (versions : VersionSet)
    (fields : List ResolvedField) : GeneratedFile :=
  ⟨context.filePath name, name, (structureClass context name versions fields).source⟩

/-- Files of one structure in two contexts, with classes that agree up to their packages. -/
def SameStructure (firstContext secondContext : ClassContext) (first second : GeneratedFile) :
    Prop :=
  ∃ name versions fields,
    first = structureFile firstContext name versions fields ∧
    second = structureFile secondContext name versions fields ∧
    ClassDescription.AgreesUpToPackages firstContext secondContext
      (structureClass firstContext name versions fields)
      (structureClass secondContext name versions fields)

/-- Two registries hold the same structures in two contexts, and the same references. -/
structure StructureRegistry.Corresponds (firstContext secondContext : ClassContext)
    (first second : StructureRegistry) : Prop where
  files : List.Forall₂ (SameStructure firstContext secondContext) first.files second.files
  references : first.references = second.references

variable {firstContext secondContext : ClassContext} {name : String} {versions : VersionSet}
  {fields : List Field} {resolvedFields : List ResolvedField}

theorem requiredImports_subset (type : FieldType) : type.requiredImports ⊆ libraryClasses := by
  induction type with
  | primitive type => cases type <;> decide
  | struct name => exact List.nil_subset _
  | array element ih => exact List.append_subset.mpr ⟨by decide, ih⟩

namespace ClassContext.SameDocument

variable (same : firstContext.SameDocument secondContext)

include same

theorem maxVersion_eq : firstContext.maxVersion = secondContext.maxVersion := by
  rw [maxVersion, maxVersion, same.validVersions]

theorem classDocs_eq (summary : String) :
    firstContext.classDocs summary = secondContext.classDocs summary := by
  rw [classDocs, classDocs, same.sourceName]

theorem resolveWithin_eq :
    ResolvedField.resolveWithin firstContext = ResolvedField.resolveWithin secondContext := by
  funext expression scope
  rw [ResolvedField.resolveWithin, ResolvedField.resolveWithin, same.maxVersion_eq]

theorem resolve_eq (attributes : FieldAttributes) :
    ResolvedField.resolve firstContext attributes =
      ResolvedField.resolve secondContext attributes := by
  simp only [ResolvedField.resolve, ResolvedField.resolveOptional, ResolvedField.resolveTagged,
    same.resolveWithin_eq, same.validVersions, same.flexibleVersions]

end ClassContext.SameDocument

namespace ClassDescription.AgreesUpToPackages

variable {first second : ClassDescription}

theorem imports_withFields {description : ClassDescription} {context : ClassContext}
    {library runtime : List String}
    (imports : description.imports = sortNames (library ++ runtime.map context.runtimeClass))
    (scope : VersionSet) (fields : List ResolvedField) :
    (description.withFields context scope fields).imports =
      sortNames ((library ++ fields.flatMap fun field => field.type.requiredImports) ++
        (runtime ++ if fields.isEmpty then [] else [fieldClass]).map context.runtimeClass) := by
  rw [ClassDescription.withFields, imports]
  apply sortNames_congr
  intro path
  cases fields.isEmpty <;>
    simp only [List.mem_append, mem_sortNames, List.map_append, List.map_cons, List.map_nil,
      if_true, if_false, Bool.false_eq_true] <;> tauto

/-- What fields add to two classes that agree, agrees as well. -/
theorem withFields (agrees : AgreesUpToPackages firstContext secondContext first second)
    (same : firstContext.SameDocument secondContext) (scope : VersionSet)
    (fields : List ResolvedField) :
    AgreesUpToPackages firstContext secondContext (first.withFields firstContext scope fields)
      (second.withFields secondContext scope fields) where
  firstPackage := agrees.firstPackage
  secondPackage := agrees.secondPackage
  name := agrees.name
  baseClass := agrees.baseClass
  docs := agrees.docs
  members := by
    simp only [ClassDescription.withFields, agrees.members, same.maxVersion_eq]
  constructor := by
    simp only [ClassDescription.withFields, agrees.constructor]
  methods := by
    simp only [ClassDescription.withFields, agrees.methods, same.maxVersion_eq]
  imports := by
    rcases agrees.imports with ⟨library, runtime, isLibrary, firstImports, secondImports⟩
    refine ⟨library ++ fields.flatMap fun field => field.type.requiredImports,
      runtime ++ if fields.isEmpty then [] else [fieldClass], ?_, ?_, ?_⟩
    · refine List.append_subset.mpr ⟨isLibrary, ?_⟩
      intro path path_mem
      rcases List.mem_flatMap.mp path_mem with ⟨field, -, isRequired⟩
      exact requiredImports_subset field.type isRequired
    · exact imports_withFields firstImports scope fields
    · exact imports_withFields secondImports scope fields

theorem append_methods (agrees : AgreesUpToPackages firstContext secondContext first second)
    (methods : List Method) :
    AgreesUpToPackages firstContext secondContext
      { first with methods := first.methods ++ methods }
      { second with methods := second.methods ++ methods } :=
  { agrees with methods := congrArg (· ++ methods) agrees.methods }

theorem checkMethods_eq (agrees : AgreesUpToPackages firstContext secondContext first second) :
    first.checkMethods = second.checkMethods := by
  rw [checkMethods, checkMethods, agrees.methods, agrees.name]

end ClassDescription.AgreesUpToPackages

theorem agreesUpToPackages_structureClass (same : firstContext.SameDocument secondContext)
    (name : String) (versions : VersionSet) (fields : List ResolvedField) :
    ClassDescription.AgreesUpToPackages firstContext secondContext
      (structureClass firstContext name versions fields)
      (structureClass secondContext name versions fields) := by
  apply ClassDescription.AgreesUpToPackages.withFields _ same
  constructor
  case docs =>
    simp only [same.maxVersion_eq, same.classDocs_eq]
  case imports =>
    exact ⟨[], [structureBaseClass], List.nil_subset _, rfl, rfl⟩
  all_goals rfl

namespace SameStructure

variable {first second : GeneratedFile}

theorem className_eq (same : SameStructure firstContext secondContext first second) :
    first.className = second.className := by
  rcases same with ⟨name, versions, fields, rfl, rfl, -⟩
  rfl

theorem of_structureClass (same : firstContext.SameDocument secondContext) (name : String)
    (versions : VersionSet) (fields : List ResolvedField) :
    SameStructure firstContext secondContext (structureFile firstContext name versions fields)
      (structureFile secondContext name versions fields) :=
  ⟨name, versions, fields, rfl, rfl, agreesUpToPackages_structureClass same name versions fields⟩

end SameStructure

namespace StructureRegistry.Corresponds

variable {first second : StructureRegistry} {firstFile secondFile : GeneratedFile}

theorem map_className_eq (corresponds : Corresponds firstContext secondContext first second) :
    first.files.map (·.className) = second.files.map (·.className) := by
  rw [← List.forall₂_eq_eq_eq, List.forall₂_map_left_iff, List.forall₂_map_right_iff]
  exact corresponds.files.imp fun _ _ same => same.className_eq

theorem contains_eq (corresponds : Corresponds firstContext secondContext first second)
    (name : String) : first.contains name = second.contains name := by
  have names := congrArg (List.any · (· == name)) corresponds.map_className_eq
  rw [List.any_map, List.any_map] at names
  exact names

theorem require (corresponds : Corresponds firstContext secondContext first second)
    (structureName field : String) :
    Corresponds firstContext secondContext (first.require structureName field)
      (second.require structureName field) := by
  unfold StructureRegistry.require
  rw [corresponds.references]
  split
  · exact corresponds
  · exact ⟨corresponds.files, rfl⟩

theorem record (corresponds : Corresponds firstContext secondContext first second)
    (same : SameStructure firstContext secondContext firstFile secondFile) :
    Corresponds firstContext secondContext (first.record firstFile) (second.record secondFile) := by
  unfold StructureRegistry.record
  rw [same.className_eq, corresponds.contains_eq]
  split
  · exact corresponds
  · exact ⟨List.rel_append corresponds.files (.cons same .nil), corresponds.references⟩

theorem checkReferences_eq (corresponds : Corresponds firstContext secondContext first second) :
    first.checkReferences = second.checkReferences := by
  unfold checkReferences unresolved
  simp only [corresponds.references, corresponds.contains_eq]

end StructureRegistry.Corresponds

namespace Emission

variable {α β γ δ : Type} {related : α → β → Prop} {relatedNext : γ → δ → Prop}

/--
Two steps simulate each other in two contexts: from registries that correspond they lead
to registries that correspond, and they fail with one error or succeed with related results.
-/
def Simulates (firstContext secondContext : ClassContext) (related : α → β → Prop)
    (first : Emission α) (second : Emission β) : Prop :=
  ∀ firstRegistry secondRegistry,
    StructureRegistry.Corresponds firstContext secondContext firstRegistry secondRegistry →
      Except.Agree related (first.runWith firstRegistry).1 (second.runWith secondRegistry).1 ∧
      StructureRegistry.Corresponds firstContext secondContext (first.runWith firstRegistry).2
        (second.runWith secondRegistry).2

namespace Simulates

theorem of_agree {first : Except GenerationError α} {second : Except GenerationError β}
    (agree : Except.Agree related first second) :
    Simulates firstContext secondContext related (ofExcept first) (ofExcept second) := by
  intro firstRegistry secondRegistry corresponds
  rw [runWith_ofExcept, runWith_ofExcept]
  exact ⟨agree, corresponds⟩

theorem pure {first : α} {second : β} (holds : related first second) :
    Simulates firstContext secondContext related (pure first) (Pure.pure second) :=
  fun _ _ corresponds => ⟨.ok holds, corresponds⟩

theorem bind {first : Emission α} {second : Emission β} {firstNext : α → Emission γ}
    {secondNext : β → Emission δ}
    (simulates : Simulates firstContext secondContext related first second)
    (next : ∀ firstResult secondResult, related firstResult secondResult →
      Simulates firstContext secondContext relatedNext (firstNext firstResult)
        (secondNext secondResult)) :
    Simulates firstContext secondContext relatedNext (first >>= firstNext)
      (second >>= secondNext) := by
  intro firstRegistry secondRegistry corresponds
  rcases simulates firstRegistry secondRegistry corresponds with ⟨agree, later⟩
  rw [runWith_bind, runWith_bind]
  generalize first.runWith firstRegistry = firstRun at agree later ⊢
  generalize second.runWith secondRegistry = secondRun at agree later ⊢
  rcases firstRun with ⟨firstOutcome, firstMiddle⟩
  rcases secondRun with ⟨secondOutcome, secondMiddle⟩
  cases agree with
  | ok holds => exact next _ _ holds _ _ later
  | error failure => exact ⟨.error failure, later⟩

/-- The registries may be looked at, as far as they correspond. -/
theorem get_bind {firstNext : StructureRegistry → Emission α}
    {secondNext : StructureRegistry → Emission β}
    (next : ∀ firstRegistry secondRegistry,
      StructureRegistry.Corresponds firstContext secondContext firstRegistry secondRegistry →
        Simulates firstContext secondContext related (firstNext firstRegistry)
          (secondNext secondRegistry)) :
    Simulates firstContext secondContext related (get >>= firstNext) (get >>= secondNext) := by
  intro firstRegistry secondRegistry corresponds
  rw [runWith_bind, runWith_bind, runWith_get, runWith_get]
  exact next _ _ corresponds _ _ corresponds

theorem modify {firstChange secondChange : StructureRegistry → StructureRegistry}
    (change : ∀ {firstRegistry secondRegistry},
      StructureRegistry.Corresponds firstContext secondContext firstRegistry secondRegistry →
        StructureRegistry.Corresponds firstContext secondContext (firstChange firstRegistry)
          (secondChange secondRegistry)) :
    Simulates firstContext secondContext Eq (modify firstChange) (modify secondChange) :=
  fun _ _ corresponds => ⟨.ok rfl, change corresponds⟩

end Simulates

end Emission

open Emission

theorem simulates_emitFields_cons {field : Field}
    (first : Simulates firstContext secondContext Eq (emitField firstContext field)
      (emitField secondContext field))
    (others : Simulates firstContext secondContext Eq (emitFields firstContext fields)
      (emitFields secondContext fields)) :
    Simulates firstContext secondContext Eq (emitFields firstContext (field :: fields))
      (emitFields secondContext (field :: fields)) := by
  simp only [emitFields]
  apply first.bind
  rintro resolved _ rfl
  apply others.bind
  rintro rest _ rfl
  exact .pure rfl

section Runs

variable (same : firstContext.SameDocument secondContext)

include same

theorem simulates_emitStructure {firstFields secondFields : Emission (List ResolvedField)}
    (inside : Simulates firstContext secondContext Eq firstFields secondFields) :
    Simulates firstContext secondContext Eq (emitStructure firstContext name versions firstFields)
      (emitStructure secondContext name versions secondFields) := by
  apply Simulates.get_bind
  intro firstRegistry secondRegistry corresponds
  rw [corresponds.contains_eq]
  split
  · exact .pure rfl
  · apply inside.bind
    rintro fields _ rfl
    have agrees := agreesUpToPackages_structureClass same name versions fields
    simp only [agrees.checkMethods_eq]
    apply (Simulates.of_agree (.refl _)).bind
    rintro _ _ -
    apply Simulates.modify
    intro first second corresponds
    exact corresponds.record (.of_structureClass same name versions fields)

/-- A field is resolved in the same way, and what it defines or refers to is the same. -/
theorem simulates_emitField (attributes : FieldAttributes) (inner : Option (List Field))
    (inside : ∀ fields ∈ inner, Simulates firstContext secondContext Eq
      (emitFields firstContext fields) (emitFields secondContext fields)) :
    Simulates firstContext secondContext Eq (emitField firstContext ⟨attributes, inner⟩)
      (emitField secondContext ⟨attributes, inner⟩) := by
  simp only [emitField, same.resolve_eq]
  apply (Simulates.of_agree (.refl _)).bind
  rintro resolved _ rfl
  have nested : Simulates firstContext secondContext Eq
      (emitNested firstContext attributes resolved inner)
      (emitNested secondContext attributes resolved inner) := by
    cases inner with
    | none =>
        simp only [emitNested]
        split
        · exact .modify fun corresponds => corresponds.require _ _
        · exact .pure rfl
    | some fields =>
        simp only [emitNested]
        split
        · exact simulates_emitStructure same (inside fields rfl)
        · exact .of_agree (.error _)
  apply nested.bind
  rintro _ _ -
  exact .pure rfl

/-- Runs over a list of fields take the same steps in both contexts. -/
theorem simulates_emitFields (fields : List Field) :
    Simulates firstContext secondContext Eq (emitFields firstContext fields)
      (emitFields secondContext fields) := by
  induction fields using Field.list_induction with
  | nil => exact .pure rfl
  | plain attributes fields ih =>
      have field := simulates_emitField same attributes none fun _ absent => by cases absent
      exact simulates_emitFields_cons field ih
  | nested attributes inner fields ihInner ih =>
      have field := simulates_emitField same attributes (some inner) fun _ present => by
        cases present
        exact ihInner
      exact simulates_emitFields_cons field ih

end Runs

end MessageGen
