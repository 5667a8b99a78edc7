import MessageGen.Class.Source
import MessageGen.Field.Declaration
import MessageGen.Structure.Registry

/-!
# Making the classes of structures

The class of a structure is made once in a run, however many fields define it. The
structures that its fields define in place are made before it, so a structure that is
defined again inside itself is recorded by its inner definition. What was recorded
before an error stays recorded.

The class itself depends on its resolved fields alone; the registry only decides
whether it is made and kept.
-/

namespace MessageGen

/-- A step of a run: it may fail, and it changes the registry also when it fails. -/
abbrev Emission (α : Type) : Type :=
  ExceptT GenerationError (StateM StructureRegistry) α

namespace Emission

/-- A step that does not look at the registry. -/
def ofExcept {α : Type} (result : Except GenerationError α) : Emission α :=
  match result with
  | .ok value => pure value
  | .error error => throw error

/-- Runs a step with a registry. -/
def runWith {α : Type} (emission : Emission α) (registry : StructureRegistry) :
    Except GenerationError α × StructureRegistry :=
  StateT.run (ExceptT.run emission) registry

end Emission

/-- The runtime class that structures extend. -/
def structureBaseClass : String := "AbstractStruct"

/-- The class of a structure with the given versions and resolved fields. -/
def structureClass (context : ClassContext) (name : String) (versions : VersionSet)
    (fields : List ResolvedField) : ClassDescription :=
  ClassDescription.withFields
    { package := context.package
      name
      baseClass := structureBaseClass
      imports := [context.runtimeClass structureBaseClass]
      docs := context.classDocs
        (name ++ " structure, versions " ++ versions.describe context.maxVersion ++ ".")
      members := []
      constructor := []
      methods := [] }
    context versions fields

/--
Makes the class of a structure, unless it is recorded. The fields are given by the step
that resolves them, which makes the structures inside first.
-/
def emitStructure (context : ClassContext) (name : String) (versions : VersionSet)
    (resolveFields : Emission (List ResolvedField)) : Emission Unit := do
  if (← get).contains name then return
  let fields ← resolveFields
  let description := structureClass context name versions fields
  Emission.ofExcept description.checkMethods
  modify (·.record ⟨context.filePath name, name, description.source⟩)

mutual

/-- Resolves fields in order and makes the structures that they define. -/
def emitFields (context : ClassContext) : List Field → Emission (List ResolvedField)
  | [] => pure []
  | field :: fields => do
    let resolved ← emitField context field
    return resolved :: (← emitFields context fields)

/--
Resolves a field. A field with fields of its own defines the structure of its type; a
field with the type of a structure and no fields refers to it.
-/
def emitField (context : ClassContext) : Field → Emission ResolvedField
  | ⟨attributes, fields⟩ => do
    let resolved ← Emission.ofExcept (ResolvedField.resolve context attributes)
    emitNested context attributes resolved fields
    return resolved

/-- Makes or refers to the structure of a resolved field. -/
def emitNested (context : ClassContext) (attributes : FieldAttributes) (resolved : ResolvedField) :
    Option (List Field) → Emission Unit
  | some fields =>
    match resolved.type.structureName? with
    | some name => emitStructure context name resolved.versions (emitFields context fields)
    | none => throw (.unsupportedType attributes.name attributes.type)
  | none =>
    match resolved.type.structureName? with
    | some name => modify (·.require name attributes.name)
    | none => pure ()

end

/-- Makes the class of a structure from its fields, unless it is recorded. -/
def emitDefinition (context : ClassContext) (name : String) (fields : List Field)
    (versions : VersionSet) : Emission Unit :=
  emitStructure context name versions (emitFields context fields)

/-- Makes the class of a common structure, unless it is recorded. -/
def emitCommon (context : ClassContext) (common : CommonStructure) : Emission Unit := do
  let versions ← Emission.ofExcept
    (ResolvedField.resolveWithin context common.versions context.validVersions)
  emitDefinition context common.name common.fields versions

end MessageGen
