import MessageGen.Proofs.Message.Run

/-!
# References between structures

A field may name a structure before the run comes to its definition, inside the
definition itself, or inside a definition of the same name. Whatever a field of the
message or of a kept definition names is known to the registry when the last field is
done, and the check of references turns known structures into recorded ones.
-/

namespace MessageGen

namespace StructureRegistry

variable {registry : StructureRegistry} {name : String}

theorem contains_of_mem_known (checked : registry.checkReferences = .ok ())
    (known : name ∈ registry.known) : registry.contains name = true := by
  rcases List.mem_append.mp known with recorded | referred
  · exact contains_iff_mem.mpr recorded
  · rcases List.mem_map.mp referred with ⟨reference, reference_mem, rfl⟩
    exact checkReferences_eq_ok_iff.mp checked reference reference_mem

end StructureRegistry

namespace ResolvedMessage

variable {document : Document} {settings : Settings} {message : ResolvedMessage}
  {output : GenerationOutput}

theorem nodup_className_of_generate (generated : message.generate = .ok output) :
    (output.structures.map (·.className)).Nodup := by
  rw [map_className_of_generate generated]
  exact message.document.nodup_keptStructures

/-- What a field of the message or of a kept definition names is the class of a structure file. -/
theorem mem_className_of_structureName? (generated : message.generate = .ok output)
    {fields : List Field}
    (fields_mem : fields ∈ message.document.fields ::
      message.document.keptStructures.map (·.fields))
    {field : Field} (field_mem : field ∈ fields) {name : String}
    (names : field.structureName? = some name) :
    name ∈ output.structures.map (·.className) := by
  rcases generate_eq_ok_iff.mp generated with
    ⟨afterCommons, resolvedFields, registry, commonsRun, fieldsRun, checked, -, rfl⟩
  apply StructureRegistry.contains_iff_mem.mp
  apply StructureRegistry.contains_of_mem_known checked
  rcases List.mem_cons.mp fields_mem with rfl | fields_mem
  · exact (known_of_emitFields fieldsRun).1 field field_mem name names
  · rcases List.mem_map.mp fields_mem with ⟨definition, definition_mem, rfl⟩
    exact (accounts_of_run commonsRun fieldsRun).named definition definition_mem field field_mem
      name names

/--
No reference dangles: the structure files are the class files of the kept definitions,
and what a field of the message or of such a definition names has exactly one file.
-/
theorem structure_references_resolve
    (resolved : resolve document settings = .ok message)
    (generated : message.generate = .ok output) :
    document.keptStructures.mapM (CommonStructure.classFile message.context) =
      .ok output.structures ∧
    ∀ fields ∈ document.fields :: document.keptStructures.map (·.fields), ∀ field ∈ fields,
      ∀ type name, FieldType.parse field.name field.type = .ok type →
        type.structureName? = some name →
        (output.structures.map (·.className)).count name = 1 := by
  rw [← document_of_resolve resolved]
  refine ⟨mapM_classFile_of_generate generated, ?_⟩
  intro fields fields_mem field field_mem type name hasType hasName
  have names : field.structureName? = some name := by
    simp [FieldAttributes.structureName?, hasType, hasName, Except.toOption]
  exact List.count_eq_one_of_mem (nodup_className_of_generate generated)
    (mem_className_of_structureName? generated fields_mem field_mem names)

end ResolvedMessage

/-- A field in all versions that declares a name, a type and perhaps fields of its own. -/
def Field.declaring (name type : String) (fields : Option (List Field)) : Field where
  name
  type
  versions := allVersions
  nullableVersions := none
  taggedVersions := none
  tag := none
  default := none
  about := none
  ignorable := false
  mapKey := false
  entityType := none
  fields

/-- A tree that refers to itself and ahead to a leaf. -/
def treeStructure : CommonStructure where
  name := "Tree"
  versions := "1+"
  fields := [.declaring "Branches" "[]Tree" none, .declaring "Leaves" "[][]Leaf" none]

/-- A message with a tree, and with a leaf that is defined again inside itself. -/
def forestDocument : Document where
  name := "PlantRequest"
  type := "request"
  apiKey := 7
  validVersions := "0-3"
  flexibleVersions := none
  commonStructures := [treeStructure]
  fields := [.declaring "Forest" "[]Tree" none, .declaring "Leaf" "Leaf"
    (some [.declaring "Inner" "Leaf" (some [.declaring "Owner" "Tree" none])])]

namespace ResolvedMessage

theorem structure_references_resolve_forest :
    forestDocument.keptStructures =
      [treeStructure, ⟨"Leaf", allVersions, [.declaring "Owner" "Tree" none]⟩] ∧
    ∃ message output, resolve forestDocument .standard = .ok message ∧
      message.generate = .ok output ∧
      (output.structures.map (·.className)).count "Leaf" = 1 ∧
      (output.structures.map (·.className)).count "Tree" = 1 := by
  have kept : forestDocument.keptStructures =
      [treeStructure, ⟨"Leaf", allVersions, [.declaring "Owner" "Tree" none]⟩] := rfl
  have succeeds : (resolve forestDocument .standard >>= generate).isOk = true := by
    decide +kernel
  rcases Except.exists_ok_of_isOk succeeds with ⟨output, run⟩
  rcases Except.bind_eq_ok_iff.mp run with ⟨message, resolved, generated⟩
  have references := (structure_references_resolve resolved generated).2
  rw [kept] at references
  refine ⟨kept, message, output, resolved, generated, ?_, ?_⟩
  · exact references treeStructure.fields (by simp) (.declaring "Leaves" "[][]Leaf" none)
      (by simp [treeStructure]) _ _ rfl rfl
  · exact references [.declaring "Owner" "Tree" none] (by simp) (.declaring "Owner" "Tree" none)
      (by simp) _ _ rfl rfl

end ResolvedMessage

end MessageGen
