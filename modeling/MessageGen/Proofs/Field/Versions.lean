import MessageGen.Field.Resolution
import MessageGen.Proofs.Outcome
import MessageGen.Proofs.Version.Membership

/-!
# The versions of a resolved field

A field has the valid versions that its version range is meant for; it may be null and
is tagged in those of them that the other two ranges are meant for. The ranges are
expanded up to the highest valid version, but that ceiling leaves no trace in the sets,
because only valid versions are kept. Resolution fails on account of tagged versions
exactly if one of them is not flexible.
-/

namespace MessageGen

/-- Whether an expression writes a range that is meant for a version. -/
def VersionRange.Admits (expression : String) (version : Version) : Prop :=
  ∃ range, parse expression = .ok range ∧ range.Holds version

namespace ClassContext

theorem le_maxVersion {context : ClassContext} {version : Version}
    (valid : version ∈ context.validVersions) : version ≤ context.maxVersion :=
  VersionSet.le_max?_getD valid

end ClassContext

namespace FieldAttributes

variable (attributes : FieldAttributes) (context : ClassContext) (version : Version)

/-- Whether a version has the field. -/
def PresentIn : Prop :=
  version ∈ context.validVersions ∧ VersionRange.Admits attributes.versions version

/-- Whether the field may be null in a version. -/
def NullableIn : Prop :=
  attributes.PresentIn context version ∧
    ∃ expression ∈ attributes.nullableVersions, VersionRange.Admits expression version

/-- Whether the field is tagged in a version. -/
def TaggedIn : Prop :=
  attributes.PresentIn context version ∧
    ∃ expression ∈ attributes.taggedVersions, VersionRange.Admits expression version

/-- Everything that resolution asks of a field, apart from its tagged versions being flexible. -/
structure Acceptable : Prop where
  versions : ∃ range, VersionRange.parse attributes.versions = .ok range
  nullableVersions : ∀ expression ∈ attributes.nullableVersions,
    ∃ range, VersionRange.parse expression = .ok range
  taggedVersions : ∀ expression ∈ attributes.taggedVersions,
    ∃ range, VersionRange.parse expression = .ok range
  initialValue : ∃ type, FieldType.parse attributes.name attributes.type = .ok type ∧
    ∀ nullable : Bool, (nullable = true ↔ ∃ version, attributes.NullableIn context version) →
      ∃ value, type.initializer attributes.name nullable attributes.default = .ok value

end FieldAttributes

namespace ResolvedField

variable {context : ClassContext} {attributes : FieldAttributes} {field : ResolvedField}
  {expression : String} {scope versions : VersionSet} {version : Version}

/-- The version sets of a resolved field are those that its ranges are meant for. -/
structure VersionsAgree (field : ResolvedField) (attributes : FieldAttributes)
    (context : ClassContext) : Prop where
  versions : ∀ version, version ∈ field.versions ↔
    version ∈ context.validVersions ∧ VersionRange.Admits attributes.versions version
  nullableVersions : ∀ version, version ∈ field.nullableVersions ↔ version ∈ field.versions ∧
    ∃ expression ∈ attributes.nullableVersions, VersionRange.Admits expression version
  taggedVersions : ∀ version, version ∈ field.taggedVersions ↔ version ∈ field.versions ∧
    ∃ expression ∈ attributes.taggedVersions, VersionRange.Admits expression version
  flexible : ∀ version ∈ field.taggedVersions, version ∈ context.flexibleVersions

theorem resolveWithin_eq_ok_iff :
    resolveWithin context expression scope = .ok versions ↔
      ∃ range, VersionRange.parse expression = .ok range ∧
        (range.expand context.maxVersion).inter scope = versions := by
  simp only [resolveWithin, VersionRange.resolve, Except.bind_eq_ok_iff, Except.pure_eq_ok_iff,
    Option.getD_some, exists_exists_and_eq_and]

theorem exists_resolveWithin_iff :
    (∃ versions, resolveWithin context expression scope = .ok versions) ↔
      ∃ range, VersionRange.parse expression = .ok range := by
  simp only [resolveWithin_eq_ok_iff]
  constructor
  · rintro ⟨versions, range, parsed, -⟩
    exact ⟨range, parsed⟩
  · rintro ⟨range, parsed⟩
    exact ⟨_, range, parsed, rfl⟩

/-- Inside a scope of valid versions, the ceiling of a range does not matter. -/
theorem mem_of_resolveWithin (inScope : ∀ version ∈ scope, version ∈ context.validVersions)
    (resolved : resolveWithin context expression scope = .ok versions) :
    version ∈ versions ↔ version ∈ scope ∧ VersionRange.Admits expression version := by
  rcases resolveWithin_eq_ok_iff.mp resolved with ⟨range, parsed, rfl⟩
  rw [VersionSet.mem_inter, and_comm]
  apply and_congr_right
  intro member
  rw [VersionRange.mem_expand_iff_holds (context.le_maxVersion (inScope version member))]
  constructor
  · intro holds
    exact ⟨range, parsed, holds⟩
  · rintro ⟨other, otherParsed, holds⟩
    rw [parsed] at otherParsed
    cases otherParsed
    exact holds

theorem mem_of_resolveOptional {expression? : Option String}
    (inScope : ∀ version ∈ scope, version ∈ context.validVersions)
    (resolved : resolveOptional context expression? scope = .ok versions) :
    version ∈ versions ↔ version ∈ scope ∧
      ∃ expression ∈ expression?, VersionRange.Admits expression version := by
  cases expression? with
  | none =>
      simp only [resolveOptional, Except.ok.injEq] at resolved
      simp [← resolved]
  | some expression => simpa using mem_of_resolveWithin inScope resolved

theorem exists_resolveOptional_iff {expression? : Option String} :
    (∃ versions, resolveOptional context expression? scope = .ok versions) ↔
      ∀ expression ∈ expression?, ∃ range, VersionRange.parse expression = .ok range := by
  cases expression? with
  | none => simp [resolveOptional]
  | some expression => simpa [resolveOptional] using exists_resolveWithin_iff

theorem resolveTagged_eq_ok_iff :
    resolveTagged context attributes scope = .ok versions ↔
      resolveOptional context attributes.taggedVersions scope = .ok versions ∧
        ∀ version ∈ versions, version ∈ context.flexibleVersions := by
  unfold resolveTagged resolveOptional
  cases attributes.taggedVersions with
  | none =>
      simp only [Except.ok.injEq, iff_self_and]
      rintro rfl version member
      exact absurd member VersionSet.not_mem_empty
  | some expression =>
      simp only [Except.bind_eq_ok_iff]
      constructor
      · rintro ⟨tagged, resolved, checked⟩
        split at checked
        · rename_i flexible
          cases checked
          exact ⟨resolved, VersionSet.isSubset_iff.mp flexible⟩
        · cases checked
      · rintro ⟨resolved, flexible⟩
        exact ⟨versions, resolved, if_pos (VersionSet.isSubset_iff.mpr flexible)⟩

theorem resolve_eq_ok_iff :
    resolve context attributes = .ok field ↔
      ∃ type versions nullableVersions taggedVersions initialValue,
        FieldType.parse attributes.name attributes.type = .ok type ∧
        resolveWithin context attributes.versions context.validVersions = .ok versions ∧
        resolveOptional context attributes.nullableVersions versions = .ok nullableVersions ∧
        resolveTagged context attributes versions = .ok taggedVersions ∧
        type.initializer attributes.name (!nullableVersions.isEmpty) attributes.default =
          .ok initialValue ∧
        ⟨attributes, memberName attributes.name, type,
          type.classType.declared (!nullableVersions.isEmpty), versions, nullableVersions,
          taggedVersions, initialValue⟩ = field := by
  simp only [resolve, Except.bind_eq_ok_iff, Except.pure_eq_ok_iff, ← exists_and_left]

theorem parse_of_resolve (resolved : resolve context attributes = .ok field) :
    FieldType.parse attributes.name attributes.type = .ok field.type := by
  rcases resolve_eq_ok_iff.mp resolved with ⟨_, _, _, _, _, isType, -, -, -, -, rfl⟩
  exact isType

theorem mem_validVersions_of_resolveWithin
    (resolved : resolveWithin context expression context.validVersions = .ok versions) :
    ∀ version ∈ versions, version ∈ context.validVersions := by
  intro version member
  exact ((mem_of_resolveWithin (fun _ valid => valid) resolved).mp member).1

theorem versionsAgree_of_resolve (resolved : resolve context attributes = .ok field) :
    field.VersionsAgree attributes context := by
  rcases resolve_eq_ok_iff.mp resolved with
    ⟨type, versions, nullableVersions, taggedVersions, initialValue, -, hasVersions, isNullable,
      isTagged, -, rfl⟩
  have inScope := mem_validVersions_of_resolveWithin hasVersions
  rcases resolveTagged_eq_ok_iff.mp isTagged with ⟨isTagged, flexible⟩
  exact
    { versions := fun _ => mem_of_resolveWithin (fun _ valid => valid) hasVersions
      nullableVersions := fun _ => mem_of_resolveOptional inScope isNullable
      taggedVersions := fun _ => mem_of_resolveOptional inScope isTagged
      flexible }

/-- The flag that boxes the type of a member says whether some version lets it be null. -/
theorem not_isEmpty_iff_nullableIn {nullableVersions : VersionSet}
    (hasVersions : resolveWithin context attributes.versions context.validVersions =
      .ok versions)
    (isNullable : resolveOptional context attributes.nullableVersions versions =
      .ok nullableVersions) :
    (!nullableVersions.isEmpty) = true ↔ ∃ version, attributes.NullableIn context version := by
  rw [Bool.not_eq_true', VersionSet.isEmpty_eq_false_iff]
  apply exists_congr
  intro version
  rw [mem_of_resolveOptional (mem_validVersions_of_resolveWithin hasVersions) isNullable,
    mem_of_resolveWithin (fun _ valid => valid) hasVersions]
  rfl

theorem mem_taggedVersions_iff_taggedIn {taggedVersions : VersionSet}
    (hasVersions : resolveWithin context attributes.versions context.validVersions =
      .ok versions)
    (isTagged : resolveOptional context attributes.taggedVersions versions =
      .ok taggedVersions) :
    version ∈ taggedVersions ↔ attributes.TaggedIn context version := by
  rw [mem_of_resolveOptional (mem_validVersions_of_resolveWithin hasVersions) isTagged,
    mem_of_resolveWithin (fun _ valid => valid) hasVersions]
  rfl

theorem exists_resolve_iff :
    (∃ field, resolve context attributes = .ok field) ↔ attributes.Acceptable context ∧
      ∀ version, attributes.TaggedIn context version → version ∈ context.flexibleVersions := by
  constructor
  · rintro ⟨field, resolved⟩
    rcases resolve_eq_ok_iff.mp resolved with
      ⟨type, versions, nullableVersions, taggedVersions, initialValue, hasType, hasVersions,
        isNullable, isTagged, initialized, -⟩
    rcases resolveTagged_eq_ok_iff.mp isTagged with ⟨isTagged, flexible⟩
    refine ⟨⟨?_, ?_, ?_, type, hasType, ?_⟩, ?_⟩
    · exact exists_resolveWithin_iff.mp ⟨versions, hasVersions⟩
    · exact exists_resolveOptional_iff.mp ⟨nullableVersions, isNullable⟩
    · exact exists_resolveOptional_iff.mp ⟨taggedVersions, isTagged⟩
    · intro nullable nullable_iff
      have same : nullable = !nullableVersions.isEmpty := by
        rw [Bool.eq_iff_iff, nullable_iff, not_isEmpty_iff_nullableIn hasVersions isNullable]
      exact ⟨initialValue, same ▸ initialized⟩
    · intro version tagged
      exact flexible version ((mem_taggedVersions_iff_taggedIn hasVersions isTagged).mpr tagged)
  · rintro ⟨acceptable, flexible⟩
    rcases exists_resolveWithin_iff.mpr acceptable.versions with ⟨versions, hasVersions⟩
    rcases exists_resolveOptional_iff.mpr acceptable.nullableVersions with
      ⟨nullableVersions, isNullable⟩
    rcases exists_resolveOptional_iff.mpr acceptable.taggedVersions with
      ⟨taggedVersions, isTagged⟩
    rcases acceptable.initialValue with ⟨type, hasType, initializes⟩
    rcases initializes _ (not_isEmpty_iff_nullableIn hasVersions isNullable) with
      ⟨initialValue, initialized⟩
    have checked : resolveTagged context attributes versions = .ok taggedVersions := by
      refine resolveTagged_eq_ok_iff.mpr ⟨isTagged, ?_⟩
      intro version member
      exact flexible version ((mem_taggedVersions_iff_taggedIn hasVersions isTagged).mp member)
    exact ⟨_, resolve_eq_ok_iff.mpr ⟨type, versions, nullableVersions, taggedVersions,
      initialValue, hasType, hasVersions, isNullable, checked, initialized, rfl⟩⟩

namespace VersionsAgree

variable {wider : ClassContext} {widerField : ResolvedField}

/-- Versions that are added to the valid ones do not change the sets of a field below them. -/
theorem mem_iff_of_wider (agree : field.VersionsAgree attributes context)
    (widerAgree : widerField.VersionsAgree attributes wider)
    (valid : version ∈ context.validVersions) (widerValid : version ∈ wider.validVersions) :
    (version ∈ widerField.versions ↔ version ∈ field.versions) ∧
      (version ∈ widerField.nullableVersions ↔ version ∈ field.nullableVersions) ∧
      (version ∈ widerField.taggedVersions ↔ version ∈ field.taggedVersions) := by
  have present : version ∈ widerField.versions ↔ version ∈ field.versions := by
    simp only [agree.versions, widerAgree.versions, valid, widerValid, true_and]
  refine ⟨present, ?_, ?_⟩
  · rw [agree.nullableVersions, widerAgree.nullableVersions, present]
  · rw [agree.taggedVersions, widerAgree.taggedVersions, present]

end VersionsAgree

/--
The version sets of a resolved field are the valid versions that its ranges are meant
for. Resolution of an otherwise acceptable field fails exactly if a tagged version is not
flexible, and more valid versions do not change what holds for the old ones.
-/
theorem resolve_versions_exact (context : ClassContext) (attributes : FieldAttributes) :
    (∀ field, resolve context attributes = .ok field →
      field.VersionsAgree attributes context) ∧
    (attributes.Acceptable context →
      ((∃ error, resolve context attributes = .error error) ↔
        ∃ version, attributes.TaggedIn context version ∧
          version ∉ context.flexibleVersions)) ∧
    (∀ wider : ClassContext,
      (∀ version ∈ context.validVersions, version ∈ wider.validVersions) →
      ∀ field widerField, resolve context attributes = .ok field →
        resolve wider attributes = .ok widerField →
        ∀ version ∈ context.validVersions,
          (version ∈ widerField.versions ↔ version ∈ field.versions) ∧
          (version ∈ widerField.nullableVersions ↔ version ∈ field.nullableVersions) ∧
          (version ∈ widerField.taggedVersions ↔ version ∈ field.taggedVersions)) := by
  refine ⟨fun field resolved => versionsAgree_of_resolve resolved, ?_, ?_⟩
  · intro acceptable
    rw [Except.exists_error_iff, exists_resolve_iff]
    simp only [acceptable, true_and, not_forall, exists_prop]
  · intro wider includes field widerField resolved widerResolved version valid
    exact (versionsAgree_of_resolve resolved).mem_iff_of_wider
      (versionsAgree_of_resolve widerResolved) valid (includes version valid)

/-- A context whose valid versions have gaps. -/
def gappedContext (flexibleVersions : VersionSet) : ClassContext where
  package := "org.example.fetch"
  runtimePackage := "org.example"
  directory := ⟨"org/example/fetch"⟩
  extension := "java"
  sourceName := "FetchRequest"
  validVersions := ⟨#[1, 3, 5], by decide⟩
  flexibleVersions

/-- A field that is tagged in the last of the versions with gaps. -/
def taggedAttributes : FieldAttributes where
  name := "ClusterId"
  type := "string"
  versions := "2+"
  nullableVersions := some "0-3"
  taggedVersions := some "4+"
  tag := some 0
  default := none
  about := none
  ignorable := false
  mapKey := false
  entityType := none

theorem resolve_versions_exact_gapped :
    (∃ field, resolve (gappedContext (.single 5)) taggedAttributes = .ok field ∧
      field.VersionsAgree taggedAttributes (gappedContext (.single 5))) ∧
    taggedAttributes.Acceptable (gappedContext (.single 3)) ∧
    ∃ error, resolve (gappedContext (.single 3)) taggedAttributes = .error error := by
  have accepted : ∃ field, resolve (gappedContext (.single 5)) taggedAttributes = .ok field :=
    Except.exists_ok_of_isOk (by decide +kernel)
  have acceptable : taggedAttributes.Acceptable (gappedContext (.single 3)) := by
    rcases exists_resolve_iff.mp accepted with ⟨acceptable, -⟩
    exact ⟨acceptable.versions, acceptable.nullableVersions, acceptable.taggedVersions,
      acceptable.initialValue⟩
  have tagged : taggedAttributes.TaggedIn (gappedContext (.single 3)) 5 :=
    ⟨⟨by decide +kernel, .openEnded 2, rfl, by decide⟩, "4+", rfl, .openEnded 4, rfl, by decide⟩
  have notFlexible : 5 ∉ (gappedContext (.single 3)).flexibleVersions := by decide +kernel
  rcases accepted with ⟨field, resolved⟩
  exact ⟨⟨field, resolved, (resolve_versions_exact _ _).1 field resolved⟩, acceptable,
    ((resolve_versions_exact _ _).2.1 acceptable).mpr ⟨5, tagged, notFlexible⟩⟩

end ResolvedField

end MessageGen
