import MessageGen.Proofs.Message.Coverage
import MessageGen.Proofs.Structure.Order

/-!
# The order of structure files

The files of a run stand in the order in which their structures are finished: what a
definition defines in its fields has a file before its own, and the message comes last.
When a definition is defined again inside itself, the inner one is finished first, so
the outer one has no file.
-/

namespace MessageGen

open CommonStructure

/-- A message with a structure that is defined again inside itself, beside another one. -/
def nestDocument : Document where
  name := "StackRequest"
  type := "request"
  apiKey := 5
  validVersions := "0-2"
  flexibleVersions := none
  commonStructures := []
  fields := [.declaring "Outer" "[]Nest" (some [
    .declaring "Label" "Label" (some [.declaring "Text" "string" none]),
    .declaring "Inner" "Nest" (some [.declaring "Core" "[]Core"
      (some [.declaring "Size" "int32" none])])])]

namespace ResolvedMessage

variable {document : Document} {settings : Settings} {message : ResolvedMessage}
  {output : GenerationOutput} {context : ClassContext} {registry final : StructureRegistry}
  {kept passed commons : List CommonStructure}

theorem isOrdered_of_emitCommons
    (run : (emitCommons context commons).runWith registry = (.ok (), final))
    (accounts : registry.Accounts context kept) (isSubset : passedCommons commons kept ⊆ passed)
    (ordered : IsOrdered passed kept) : IsOrdered passed (keepCommons commons kept) := by
  induction commons generalizing registry kept with
  | nil => exact ordered
  | cons common commons ih =>
      rcases emitCommons_cons_eq_ok_iff.mp run with
        ⟨versions, middle, hasVersions, made, continued⟩
      rw [passedCommons, List.append_subset] at isSubset
      apply ih continued _ isSubset.2
      · exact isOrdered_of_emitStructure common isOrdered_of_emitFields made accounts isSubset.1
          ordered
      · exact accounts_of_emitStructure common accounts_of_emitFields hasVersions made accounts

theorem isOrdered_of_generate (generated : message.generate = .ok output) :
    IsOrdered message.document.passedOver message.document.keptStructures := by
  rcases generate_eq_ok_iff.mp generated with
    ⟨afterCommons, resolvedFields, registry, commonsRun, fieldsRun, -, -, -⟩
  apply isOrdered_of_emitFields fieldsRun (accounts_of_emitCommons commonsRun accounts_empty)
  · exact List.subset_append_right _ _
  · exact isOrdered_of_emitCommons commonsRun accounts_empty (List.subset_append_left _ _)
      (isOrdered_nil _)

/-- A structure file is the class file of a kept definition, at the same place. -/
theorem exists_comesAfter_of_generate (generated : message.generate = .ok output)
    {before after : List GeneratedFile} {file : GeneratedFile}
    (split : output.structures = before ++ file :: after) :
    ∃ first definition rest, message.document.keptStructures = first ++ definition :: rest ∧
      first.map (·.name) = before.map (·.className) ∧
      definition.classFile message.context = .ok file ∧
      ComesAfter message.document.passedOver first definition := by
  have made := mapM_classFile_of_generate generated
  rw [split] at made
  rcases Except.exists_split_of_mapM made with
    ⟨first, definition, rest, keptSplit, firstMade, isFile⟩
  refine ⟨first, definition, rest, keptSplit, ?_, isFile, ?_⟩
  · exact (Except.map_eq_of_mapM className_of_classFile firstMade).symm
  · apply isOrdered_of_generate generated
    rw [keptSplit]
    exact ⟨rest, by simp⟩

/--
Structures stand before what is made of them. A structure file is the class file of the
kept definition at its place, and whatever a field of this definition defines in place
has a file in front of it; so does what is defined further inside, unless the run passed
over it. The definition is not defined again inside itself, or only where it was passed
over. The structures that fields of the message define have files before the message.
-/
theorem structures_in_order (resolved : resolve document settings = .ok message)
    (generated : message.generate = .ok output) :
    (∀ before file after, output.structures = before ++ file :: after →
      ∃ definition, document.keptStructures[before.length]? = some definition ∧
        definition.classFile message.context = .ok file ∧
        (∀ field ∈ definition.fields, field.fields.isSome →
          ∀ name, field.structureName? = some name → name ∈ before.map (·.className)) ∧
        (∀ inner ∈ definitionsWithin definition.fields, inner.name ∈ before.map (·.className) ∨
          ∃ other ∈ document.passedOver, inner ∈ definitionsWithin other.fields) ∧
        ∀ inner ∈ definitionsWithin definition.fields, inner.name = definition.name →
          ∃ other ∈ document.passedOver, inner ∈ definitionsWithin other.fields) ∧
    ∀ field ∈ document.fields, field.fields.isSome →
      ∀ name, field.structureName? = some name → ∃ before file after,
        output.files = before ++ file :: after ++ [output.message] ∧ file.className = name := by
  rw [← document_of_resolve resolved]
  refine ⟨?_, ?_⟩
  · intro before file after split
    rcases exists_comesAfter_of_generate generated split with
      ⟨first, definition, rest, keptSplit, names, isFile, comesAfter⟩
    have isKept_iff : ∀ name, isKept first name = true ↔ name ∈ before.map (·.className) := by
      intro name
      rw [isKept_iff_mem, names]
    have inside : ∀ inner ∈ definitionsWithin definition.fields,
        inner.name ∈ before.map (·.className) ∨ ∃ other ∈ message.document.passedOver,
          inner ∈ definitionsWithin other.fields :=
      fun inner inner_mem => (comesAfter.inside inner inner_mem).imp_left (isKept_iff _).mp
    refine ⟨definition, ?_, isFile, ?_, inside, ?_⟩
    · have sameLength : before.length = first.length := by
        simpa using (congrArg List.length names).symm
      rw [keptSplit, sameLength]
      simp
    · intro field field_mem hasFields name hasName
      exact (isKept_iff name).mp (comesAfter.direct field field_mem hasFields name hasName)
    · intro inner inner_mem sameName
      refine (inside inner inner_mem).resolve_left ?_
      -- the name is that of the file itself, and no file in front of it has it
      rw [sameName, ← names]
      have distinct := message.document.nodup_keptStructures
      rw [keptSplit, List.map_append, List.map_cons] at distinct
      exact fun isBefore => List.disjoint_of_nodup_append distinct isBefore List.mem_cons_self
  · intro field field_mem hasFields name hasName
    have name_mem : name ∈ output.structures.map (·.className) := by
      rw [map_className_of_generate generated, ← isKept_iff_mem]
      exact isKept_keepFields_of_mem field_mem hasFields hasName
    rcases List.mem_map.mp name_mem with ⟨file, file_mem, rfl⟩
    rcases List.append_of_mem file_mem with ⟨before, after, split⟩
    exact ⟨before, file, after, by rw [GenerationOutput.files, split], rfl⟩

theorem structures_in_order_nest : ∃ message output first second third,
    resolve nestDocument .standard = .ok message ∧ message.generate = .ok output ∧
    output.structures = [first, second, third] ∧ third.className = "Nest" ∧
    "Core" ∈ [first, second].map (·.className) ∧
    ∃ before file after, output.files = before ++ file :: after ++ [output.message] ∧
      file.className = "Nest" := by
  have outcome : ((resolve nestDocument .standard >>= generate).toOption.map
      GenerationOutput.structureNames) = some ["Label", "Core", "Nest"] := by
    decide +kernel
  rcases Except.exists_ok_of_map_toOption outcome with ⟨output, run, names⟩
  rcases Except.bind_eq_ok_iff.mp run with ⟨message, resolved, generated⟩
  have count : output.structures.length = 3 := by
    simpa [GenerationOutput.structureNames] using congrArg List.length names
  rcases List.length_eq_three.mp count with ⟨first, second, third, structures⟩
  have kept : nestDocument.keptStructures[2]? = some ⟨"Nest", allVersions,
      [.declaring "Core" "[]Core" (some [.declaring "Size" "int32" none])]⟩ := rfl
  rcases structures_in_order resolved generated with ⟨inOrder, ofMessage⟩
  rcases inOrder [first, second] third [] structures with
    ⟨definition, isDefinition, isFile, direct, -⟩
  cases isDefinition.symm.trans kept
  refine ⟨message, output, first, second, third, resolved, generated, structures,
    className_of_classFile isFile, ?_, ?_⟩
  · exact direct _ List.mem_cons_self rfl "Core" rfl
  · exact ofMessage _ List.mem_cons_self rfl "Nest" rfl

end ResolvedMessage

end MessageGen
