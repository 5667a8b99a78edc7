import MessageGen.Class.Context
import MessageGen.Class.Literal
import MessageGen.Schema.Document
import MessageGen.Version.Range

/-!
# Resolved fields

A field is resolved against the versions of its document: the ranges it declares become
sets of valid versions, its type becomes a class type, and its default becomes the
initial value of a member. Tagged versions must be flexible; that is checked and not
arranged.
-/

namespace MessageGen

/-- A field whose type, versions and default are known. -/
structure ResolvedField where
  attributes : FieldAttributes
  /-- The name of its member. -/
  member : String
  type : FieldType
  /-- The declared type of its member, boxed when the field may be null. -/
  memberType : String
  /-- The versions that have the field. -/
  versions : VersionSet
  /-- The versions in which the field may be null. -/
  nullableVersions : VersionSet
  /-- The versions in which the field is tagged. -/
  taggedVersions : VersionSet
  /-- The expression that its member starts with. -/
  initialValue : String

namespace ResolvedField

/-- The versions of a set that a range of a field holds for. -/
def resolveWithin (context : ClassContext) (expression : String) (scope : VersionSet) :
    Except GenerationError VersionSet := do
  let versions ← VersionRange.resolve expression (some context.maxVersion)
  return versions.inter scope

/-- The same for a range that may be absent, which then holds for no version. -/
def resolveOptional (context : ClassContext) (expression? : Option String) (scope : VersionSet) :
    Except GenerationError VersionSet :=
  match expression? with
  | some expression => resolveWithin context expression scope
  | none => .ok .empty

/-- The tagged versions of a field, all of which must be flexible. -/
def resolveTagged (context : ClassContext) (attributes : FieldAttributes) (scope : VersionSet) :
    Except GenerationError VersionSet :=
  match attributes.taggedVersions with
  | none => .ok .empty
  | some expression => do
    let tagged ← resolveWithin context expression scope
    if tagged.isSubset context.flexibleVersions then .ok tagged
    else
      .error (.malformedRange expression
        (.notFlexible attributes.name context.flexibleVersions))

/-- Resolves a field in the context of its document. -/
def resolve (context : ClassContext) (attributes : FieldAttributes) :
    Except GenerationError ResolvedField := do
  let type ← FieldType.parse attributes.name attributes.type
  let versions ← resolveWithin context attributes.versions context.validVersions
  let nullableVersions ← resolveOptional context attributes.nullableVersions versions
  let taggedVersions ← resolveTagged context attributes versions
  let nullable := !nullableVersions.isEmpty
  let initialValue ← type.initializer attributes.name nullable attributes.default
  return {
    attributes
    member := memberName attributes.name
    type
    memberType := type.classType.declared nullable
    versions
    nullableVersions
    taggedVersions
    initialValue }

/-- Whether some version of a scope does not have the field. -/
def isConditional (field : ResolvedField) (scope : VersionSet) : Bool :=
  !scope.isSubset field.versions

end ResolvedField

end MessageGen
