import Mathlib.Data.List.Nodup
import MessageGen.Message.Generation
import MessageGen.Proofs.Structure.Run

/-!
# The structure definitions of a document

A definition has a name, a range of versions and fields, whether it stands beside the
fields of the message or inside a field, so both kinds are values of `CommonStructure`.
Several definitions may have one name. Which of them a run keeps is fixed by the names
alone: a definition is passed over if its name is kept when the run comes to it, and
it is dropped if its name is kept once the definitions inside it are done.
-/

namespace MessageGen

/-- The structure that a field names by its type, also as the element of arrays. -/
def FieldAttributes.structureName? (attributes : FieldAttributes) : Option String :=
  (FieldType.parse attributes.name attributes.type).toOption.bind FieldType.structureName?

theorem FieldType.isStructureName_of_parseText {field name : String} {text : List Char}
    {type : FieldType} (parsed : parseText field text = .ok type)
    (names : type.structureName? = some name) : isStructureName name.toList = true := by
  fun_induction parseText field text generalizing type with
  | case1 element isEmpty => cases parsed
  | case2 element nonempty ih =>
      cases inside : parseText field element with
      | error error => simp [inside, Except.map] at parsed
      | ok elementType =>
          simp only [inside, Except.map, Except.ok.injEq] at parsed
          subst parsed
          exact ih inside names
  | case3 text primitive found notArray =>
      simp only [found, Except.ok.injEq] at parsed
      subst parsed
      cases names
  | case4 text notPrimitive isName notArray =>
      simp only [notPrimitive, isName, if_true, Except.ok.injEq] at parsed
      subst parsed
      cases names
      rwa [String.toList_ofList]
  | case5 text notPrimitive notName notArray => simp [notPrimitive, notName] at parsed

/-- A field can only name a structure by an identifier with a capital letter in front. -/
theorem FieldAttributes.isStructureName_of_structureName? {attributes : FieldAttributes}
    {name : String} (names : attributes.structureName? = some name) :
    FieldType.isStructureName name.toList = true := by
  unfold structureName? at names
  cases parsed : FieldType.parse attributes.name attributes.type with
  | error error => simp [parsed, Except.toOption] at names
  | ok type =>
      simp only [parsed, Except.toOption, Option.bind_some] at names
      exact FieldType.isStructureName_of_parseText parsed names

mutual

/-- The fields of a list that have fields of their own, at any depth, with these fields. -/
def nestedFields : List Field → List (FieldAttributes × List Field)
  | [] => []
  | field :: fields => nestedField field ++ nestedFields fields

def nestedField : Field → List (FieldAttributes × List Field)
  | ⟨attributes, fields⟩ => nestedInner attributes fields

def nestedInner (attributes : FieldAttributes) :
    Option (List Field) → List (FieldAttributes × List Field)
  | none => []
  | some fields => (attributes, fields) :: nestedFields fields

end

/-- The definition that a field with fields of its own makes, if its type names a structure. -/
def FieldAttributes.definition? (attributes : FieldAttributes) (fields : List Field) :
    Option CommonStructure :=
  attributes.structureName?.map fun name => ⟨name, attributes.versions, fields⟩

/-- The definitions inside a list of fields, at any depth. -/
def definitionsWithin (fields : List Field) : List CommonStructure :=
  (nestedFields fields).filterMap fun nested => nested.1.definition? nested.2

/-- A definition and the definitions inside it. -/
def CommonStructure.definitions (definition : CommonStructure) : List CommonStructure :=
  definition :: definitionsWithin definition.fields

/-- The definitions of a document: its common structures, and those inside fields at any depth. -/
def Document.definitions (document : Document) : List CommonStructure :=
  document.commonStructures.flatMap CommonStructure.definitions ++
    definitionsWithin document.fields

/-- Induction over a list of fields, by the fields that define a structure in place. -/
theorem Field.definition_induction {motive : List Field → Prop} (nil : motive [])
    (plain : ∀ attributes fields, motive fields → motive (⟨attributes, none⟩ :: fields))
    (unnamed : ∀ attributes inner fields, attributes.structureName? = none → motive inner →
      motive fields → motive (⟨attributes, some inner⟩ :: fields))
    (named : ∀ attributes inner fields name, attributes.structureName? = some name →
      motive inner → motive fields → motive (⟨attributes, some inner⟩ :: fields)) :
    ∀ fields, motive fields := by
  intro fields
  induction fields using Field.list_induction with
  | nil => exact nil
  | plain attributes fields ih => exact plain attributes fields ih
  | nested attributes inner fields ihInner ih =>
      cases hasName : attributes.structureName? with
      | none => exact unnamed attributes inner fields hasName ihInner ih
      | some name => exact named attributes inner fields name hasName ihInner ih

section NestedFields

variable {attributes : FieldAttributes} {inner fields : List Field}
  {definition : CommonStructure} {name : String}

@[simp]
theorem nestedFields_nested : nestedFields (⟨attributes, some inner⟩ :: fields) =
    (attributes, inner) :: (nestedFields inner ++ nestedFields fields) :=
  rfl

theorem definitionsWithin_unnamed (noName : attributes.structureName? = none) :
    definitionsWithin (⟨attributes, some inner⟩ :: fields) =
      definitionsWithin inner ++ definitionsWithin fields := by
  simp [definitionsWithin, FieldAttributes.definition?, noName]

theorem definitionsWithin_named (hasName : attributes.structureName? = some name) :
    definitionsWithin (⟨attributes, some inner⟩ :: fields) =
      CommonStructure.definitions ⟨name, attributes.versions, inner⟩ ++
        definitionsWithin fields := by
  simp [definitionsWithin, FieldAttributes.definition?, hasName, CommonStructure.definitions]

theorem exists_nested_of_mem_definitionsWithin
    (definition_mem : definition ∈ definitionsWithin fields) :
    ∃ attributes, attributes.structureName? = some definition.name ∧
      (attributes, definition.fields) ∈ nestedFields fields := by
  rcases List.mem_filterMap.mp definition_mem with ⟨⟨attributes, inner⟩, nested_mem, isDefinition⟩
  rcases Option.map_eq_some_iff.mp isDefinition with ⟨name, hasName, rfl⟩
  exact ⟨attributes, hasName, nested_mem⟩

end NestedFields

namespace CommonStructure

/-- Whether a definition of a name is kept. -/
def isKept (kept : List CommonStructure) (name : String) : Bool :=
  kept.any (·.name == name)

/-- Keeps a definition, unless one of its name is kept. -/
def keep (kept : List CommonStructure) (definition : CommonStructure) : List CommonStructure :=
  if isKept kept definition.name then kept else kept ++ [definition]

/-- The definitions that are kept once a definition is done, given what those inside it add. -/
def keepAfter (inside : List CommonStructure → List CommonStructure)
    (kept : List CommonStructure) (definition : CommonStructure) : List CommonStructure :=
  if isKept kept definition.name then kept else keep (inside kept) definition

mutual

/-- The definitions that are kept once a list of fields is done. -/
def keepFields : List Field → List CommonStructure → List CommonStructure
  | [], kept => kept
  | field :: fields, kept => keepFields fields (keepField field kept)

/-- The definitions that are kept once a field is done. -/
def keepField : Field → List CommonStructure → List CommonStructure
  | ⟨attributes, fields⟩, kept => keepNested attributes fields kept

/-- The definitions that are kept once the structure that a field may define is done. -/
def keepNested (attributes : FieldAttributes) :
    Option (List Field) → List CommonStructure → List CommonStructure
  | none, kept => kept
  | some fields, kept =>
    match attributes.structureName? with
    | some name => keepAfter (keepFields fields) kept ⟨name, attributes.versions, fields⟩
    | none => kept

end

/-- The definitions that are kept once a list of common structures is done. -/
def keepCommons : List CommonStructure → List CommonStructure → List CommonStructure
  | [], kept => kept
  | common :: commons, kept =>
    keepCommons commons (keepAfter (keepFields common.fields) kept common)

end CommonStructure

/-- The definitions of a document that make the structures of a run, in the order of their files. -/
def Document.keptStructures (document : Document) : List CommonStructure :=
  CommonStructure.keepFields document.fields
    (CommonStructure.keepCommons document.commonStructures [])

namespace CommonStructure

variable {kept : List CommonStructure} {definition other : CommonStructure} {name : String}

section Equations

variable {attributes : FieldAttributes} {inner fields : List Field}

theorem keepFields_unnamed (noName : attributes.structureName? = none) :
    keepFields (⟨attributes, some inner⟩ :: fields) kept = keepFields fields kept := by
  simp only [keepFields, keepField, keepNested, noName]

theorem keepFields_named (hasName : attributes.structureName? = some name) :
    keepFields (⟨attributes, some inner⟩ :: fields) kept =
      keepFields fields (keepAfter (keepFields inner) kept ⟨name, attributes.versions, inner⟩) := by
  simp only [keepFields, keepField, keepNested, hasName]

end Equations

theorem isKept_iff_mem : isKept kept name = true ↔ name ∈ kept.map (·.name) := by
  simp only [isKept, List.any_eq_true, beq_iff_eq, List.mem_map]

theorem isKept_eq_false_iff : isKept kept name = false ↔ name ∉ kept.map (·.name) := by
  rw [← isKept_iff_mem, Bool.not_eq_true]

theorem mem_of_mem_keep (other_mem : other ∈ keep kept definition) :
    other ∈ kept ∨ other = definition := by
  unfold keep at other_mem
  split at other_mem
  · exact Or.inl other_mem
  · exact (List.mem_append.mp other_mem).imp_right List.mem_singleton.mp

theorem isKept_keep : isKept (keep kept definition) name = true ↔
    name = definition.name ∨ isKept kept name = true := by
  unfold keep
  split
  · rename_i recorded
    constructor
    · exact Or.inr
    · rintro (rfl | isKept)
      · exact recorded
      · exact isKept
  · simp only [isKept_iff_mem, List.map_append, List.map_singleton, List.mem_append,
      List.mem_singleton]
    tauto

section Preservation

variable (property : List CommonStructure → Prop)

theorem keepAfter_preserves {inside : List CommonStructure → List CommonStructure}
    (insidePreserves : ∀ kept, property kept → property (inside kept))
    (preserved : ∀ kept, property kept → property (keep kept definition))
    (kept : List CommonStructure) (holds : property kept) :
    property (keepAfter inside kept definition) := by
  unfold keepAfter
  split
  · exact holds
  · exact preserved (inside kept) (insidePreserves kept holds)

/-- What keeping any definition inside a list of fields preserves, the list preserves. -/
theorem keepFields_preserves (fields : List Field)
    (preserved : ∀ definition ∈ definitionsWithin fields, ∀ kept,
      property kept → property (keep kept definition)) :
    ∀ kept, property kept → property (keepFields fields kept) := by
  induction fields using Field.definition_induction with
  | nil => exact fun kept holds => holds
  | plain attributes fields ih => exact ih preserved
  | unnamed attributes inner fields noName ihInner ih =>
      simp only [definitionsWithin_unnamed noName, List.mem_append] at preserved
      intro kept holds
      rw [keepFields_unnamed noName]
      exact ih (fun definition definition_mem => preserved definition (Or.inr definition_mem)) kept
        holds
  | named attributes inner fields name hasName ihInner ih =>
      simp only [definitionsWithin_named hasName, List.mem_append, definitions,
        List.mem_cons] at preserved
      intro kept holds
      rw [keepFields_named hasName]
      apply ih fun definition definition_mem => preserved definition (Or.inr definition_mem)
      apply keepAfter_preserves property _ _ kept holds
      · exact ihInner fun definition definition_mem =>
          preserved definition (Or.inl (Or.inr definition_mem))
      · exact preserved _ (Or.inl (Or.inl rfl))

theorem keepCommons_preserves (commons : List CommonStructure)
    (preserved : ∀ definition ∈ commons.flatMap definitions, ∀ kept,
      property kept → property (keep kept definition)) :
    ∀ kept, property kept → property (keepCommons commons kept) := by
  induction commons with
  | nil => exact fun kept holds => holds
  | cons common commons ih =>
      simp only [List.flatMap_cons, List.mem_append, definitions, List.mem_cons] at preserved
      intro kept holds
      apply ih fun definition definition_mem => preserved definition (Or.inr definition_mem)
      apply keepAfter_preserves property _ _ kept holds
      · exact keepFields_preserves property common.fields fun definition definition_mem =>
          preserved definition (Or.inl (Or.inr definition_mem))
      · exact preserved common (Or.inl (Or.inl rfl))

end Preservation

theorem isKept_keepFields (fields : List Field) (kept : List CommonStructure) (name : String)
    (isKept : isKept kept name = true) :
    CommonStructure.isKept (keepFields fields kept) name = true :=
  keepFields_preserves (fun kept => CommonStructure.isKept kept name = true) fields
    (fun _ _ _ isKept => isKept_keep.mpr (Or.inr isKept)) kept isKept

theorem isKept_keepCommons (commons kept : List CommonStructure) (name : String)
    (isKept : isKept kept name = true) :
    CommonStructure.isKept (keepCommons commons kept) name = true :=
  keepCommons_preserves (fun kept => CommonStructure.isKept kept name = true) commons
    (fun _ _ _ isKept => isKept_keep.mpr (Or.inr isKept)) kept isKept

theorem nodup_keep (distinct : (kept.map (·.name)).Nodup) (definition : CommonStructure) :
    ((keep kept definition).map (·.name)).Nodup := by
  unfold keep
  split
  · exact distinct
  · rename_i isNew
    rw [Bool.not_eq_true, isKept_eq_false_iff] at isNew
    rw [List.map_append, List.map_singleton, ← List.concat_eq_append]
    exact distinct.concat isNew

end CommonStructure

namespace Document

/-- What keeping a definition of the document preserves, holds of its kept definitions. -/
theorem keptStructures_induction (document : Document) (property : List CommonStructure → Prop)
    (start : property [])
    (preserved : ∀ definition ∈ document.definitions, ∀ kept,
      property kept → property (CommonStructure.keep kept definition)) :
    property document.keptStructures := by
  simp only [definitions, List.mem_append] at preserved
  apply CommonStructure.keepFields_preserves property document.fields
  · exact fun definition definition_mem => preserved definition (Or.inr definition_mem)
  · apply CommonStructure.keepCommons_preserves property document.commonStructures _ [] start
    exact fun definition definition_mem => preserved definition (Or.inl definition_mem)

/-- No two kept definitions have one name. -/
theorem nodup_keptStructures (document : Document) :
    (document.keptStructures.map (·.name)).Nodup :=
  document.keptStructures_induction (fun kept => (kept.map (·.name)).Nodup) List.nodup_nil
    fun definition _ _ distinct => CommonStructure.nodup_keep distinct definition

theorem keptStructures_subset_definitions (document : Document) :
    document.keptStructures ⊆ document.definitions := by
  apply document.keptStructures_induction (· ⊆ document.definitions) (List.nil_subset _)
  intro definition definition_mem kept isSubset other other_mem
  rcases CommonStructure.mem_of_mem_keep other_mem with old | rfl
  · exact isSubset old
  · exact definition_mem

/-- The names of definitions are identifiers, or names of common structures. -/
theorem name_of_mem_definitions (document : Document) :
    ∀ definition ∈ document.definitions,
      FieldType.isStructureName definition.name.toList = true ∨
        ∃ common ∈ document.commonStructures, common.name = definition.name := by
  have isIdentifier : ∀ {fields} {definition : CommonStructure},
      definition ∈ definitionsWithin fields →
        FieldType.isStructureName definition.name.toList = true := by
    intro fields definition definition_mem
    rcases exists_nested_of_mem_definitionsWithin definition_mem with ⟨attributes, hasName, -⟩
    exact FieldAttributes.isStructureName_of_structureName? hasName
  intro definition definition_mem
  rcases List.mem_append.mp definition_mem with inCommon | inFields
  · rcases List.mem_flatMap.mp inCommon with ⟨common, common_mem, definition_mem⟩
    rcases List.mem_cons.mp definition_mem with rfl | definition_mem
    · exact Or.inr ⟨definition, common_mem, rfl⟩
    · exact Or.inl (isIdentifier definition_mem)
  · exact Or.inl (isIdentifier inFields)

end Document

end MessageGen
