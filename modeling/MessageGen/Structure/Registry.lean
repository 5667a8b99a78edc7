import MessageGen.Class.Context
import MessageGen.Error

/-!
# The structures of one run

While the classes of a document are made, a registry holds the files of the structures
that are finished and the references to structures by name. A name is recorded once;
what comes later under the same name is dropped. A reference may come before the
structure it names, so references are checked at the end.
-/

namespace MessageGen

/-- A file with the source text of a class. -/
structure GeneratedFile where
  /-- The path below the output directory. -/
  path : Path
  /-- The class that the file declares. -/
  className : String
  contents : String
  deriving DecidableEq, Repr, Inhabited

/-- A reference of a field to a structure that it does not define. -/
structure StructureReference where
  structureName : String
  field : String
  deriving DecidableEq, Repr, Inhabited

/-- The structures that are recorded and those that are referred to. -/
structure StructureRegistry where
  /-- The files of the structures, in the order in which they were recorded. -/
  files : List GeneratedFile
  /-- The first reference to each structure, in the order in which they came. -/
  references : List StructureReference
  deriving DecidableEq, Repr, Inhabited

namespace StructureRegistry

/-- The registry at the start of a run. -/
def empty : StructureRegistry :=
  ⟨[], []⟩

instance : EmptyCollection StructureRegistry := ⟨empty⟩

/-- Whether a structure is recorded. -/
def contains (registry : StructureRegistry) (name : String) : Bool :=
  registry.files.any (·.className == name)

/-- Records the file of a structure, unless its name is recorded already. -/
def record (registry : StructureRegistry) (file : GeneratedFile) : StructureRegistry :=
  if registry.contains file.className then registry
  else { registry with files := registry.files ++ [file] }

/-- Notes that a field refers to a structure; the first field of a name is kept. -/
def require (registry : StructureRegistry) (structureName field : String) : StructureRegistry :=
  if registry.references.any (·.structureName == structureName) then registry
  else { registry with references := registry.references ++ [⟨structureName, field⟩] }

/-- The references to structures that are not recorded. -/
def unresolved (registry : StructureRegistry) : List StructureReference :=
  registry.references.filter fun reference => !registry.contains reference.structureName

/-- The reference with the least name, in the order of code points. -/
def leastReference? : List StructureReference → Option StructureReference
  | [] => none
  | reference :: references =>
    match leastReference? references with
    | none => some reference
    | some least =>
      if least.structureName < reference.structureName then some least else some reference

/-- Fails with the least name that is referred to and not recorded. -/
def checkReferences (registry : StructureRegistry) : Except GenerationError Unit :=
  match leastReference? registry.unresolved with
  | some missing => .error (.unknownStructure missing.field missing.structureName)
  | none => .ok ()

end StructureRegistry

end MessageGen
