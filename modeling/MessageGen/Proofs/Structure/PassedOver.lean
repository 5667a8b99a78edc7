import MessageGen.Proofs.Structure.Definition

/-!
# Definitions that are passed over

Once a name is kept, a run does not look into further definitions of it. With such a
definition everything inside it is passed over, whatever the names there. A document
that defines no name twice has no such definition.
-/

namespace MessageGen

/-- A list of fields and the lists of fields inside it, at any depth. -/
def listsOf (fields : List Field) : List (List Field) :=
  fields :: (nestedFields fields).map (·.2)

/-- The lists of fields of a document, at any depth. -/
def Document.fieldLists (document : Document) : List (List Field) :=
  document.commonStructures.flatMap (listsOf ·.fields) ++ listsOf document.fields

namespace CommonStructure

/-- What is passed over until a definition is done, given what is passed over inside it. -/
def passedAfter (inside : List CommonStructure → List CommonStructure)
    (kept : List CommonStructure) (definition : CommonStructure) : List CommonStructure :=
  if isKept kept definition.name then [definition] else inside kept

mutual

/-- The definitions that are passed over until a list of fields is done. -/
def passedFields : List Field → List CommonStructure → List CommonStructure
  | [], _ => []
  | field :: fields, kept => passedField field kept ++ passedFields fields (keepField field kept)

def passedField : Field → List CommonStructure → List CommonStructure
  | ⟨attributes, fields⟩, kept => passedNested attributes fields kept

def passedNested (attributes : FieldAttributes) :
    Option (List Field) → List CommonStructure → List CommonStructure
  | none, _ => []
  | some fields, kept =>
    match attributes.structureName? with
    | some name => passedAfter (passedFields fields) kept ⟨name, attributes.versions, fields⟩
    | none => []

end

/-- The definitions that are passed over until a list of common structures is done. -/
def passedCommons : List CommonStructure → List CommonStructure → List CommonStructure
  | [], _ => []
  | common :: commons, kept =>
    passedAfter (passedFields common.fields) kept common ++
      passedCommons commons (keepAfter (keepFields common.fields) kept common)

end CommonStructure

/-- The definitions of a document that a run passes over; those inside them are not listed. -/
def Document.passedOver (document : Document) : List CommonStructure :=
  CommonStructure.passedCommons document.commonStructures [] ++
    CommonStructure.passedFields document.fields
      (CommonStructure.keepCommons document.commonStructures [])

section NestedFields

variable {attributes : FieldAttributes} {inner fields : List Field} {definition : CommonStructure}

theorem nestedFields_subset (nested_mem : (attributes, inner) ∈ nestedFields fields) :
    nestedFields inner ⊆ nestedFields fields := by
  induction fields using Field.list_induction with
  | nil => exact absurd nested_mem List.not_mem_nil
  | plain _ fields ih => exact ih nested_mem
  | nested outer outerInner fields ihInner ih =>
      rw [nestedFields_nested, List.mem_cons, List.mem_append, Prod.mk.injEq] at nested_mem
      intro nested isInside
      rw [nestedFields_nested, List.mem_cons, List.mem_append]
      rcases nested_mem with ⟨-, rfl⟩ | inside | behind
      · exact Or.inr (Or.inl isInside)
      · exact Or.inr (Or.inl (ihInner inside isInside))
      · exact Or.inr (Or.inr (ih behind isInside))

theorem definitionsWithin_subset_of_mem (definition_mem : definition ∈ definitionsWithin fields) :
    definitionsWithin definition.fields ⊆ definitionsWithin fields := by
  rcases exists_nested_of_mem_definitionsWithin definition_mem with ⟨attributes, -, nested_mem⟩
  exact List.filterMap_subset _ (nestedFields_subset nested_mem)

theorem listsOf_subset_of_mem (definition_mem : definition ∈ definitionsWithin fields) :
    listsOf definition.fields ⊆ listsOf fields := by
  rcases exists_nested_of_mem_definitionsWithin definition_mem with ⟨attributes, -, nested_mem⟩
  refine List.cons_subset.mpr ⟨?_, ?_⟩
  · exact List.mem_cons_of_mem fields (List.mem_map_of_mem nested_mem)
  · exact List.subset_cons_of_subset fields (List.map_subset _ (nestedFields_subset nested_mem))

end NestedFields

namespace CommonStructure

variable {kept : List CommonStructure} {definition other : CommonStructure} {fields : List Field}

section Equations

variable {attributes : FieldAttributes} {inner : List Field} {name : String}

theorem passedFields_unnamed (noName : attributes.structureName? = none) :
    passedFields (⟨attributes, some inner⟩ :: fields) kept = passedFields fields kept := by
  simp only [passedFields, passedField, passedNested, keepField, keepNested, noName,
    List.nil_append]

theorem passedFields_named (hasName : attributes.structureName? = some name) :
    passedFields (⟨attributes, some inner⟩ :: fields) kept =
      passedAfter (passedFields inner) kept ⟨name, attributes.versions, inner⟩ ++
        passedFields fields
          (keepAfter (keepFields inner) kept ⟨name, attributes.versions, inner⟩) := by
  simp only [passedFields, passedField, passedNested, keepField, keepNested, hasName]

end Equations

theorem passedAfter_subset {inside : List CommonStructure → List CommonStructure}
    (insideSubset : inside kept ⊆ definitionsWithin definition.fields) :
    passedAfter inside kept definition ⊆ definition.definitions := by
  unfold passedAfter
  split
  · exact List.cons_subset.mpr ⟨List.mem_cons_self, List.nil_subset _⟩
  · exact List.subset_cons_of_subset definition insideSubset

theorem passedFields_subset (fields : List Field) :
    ∀ kept, passedFields fields kept ⊆ definitionsWithin fields := by
  induction fields using Field.definition_induction with
  | nil => exact fun kept => List.nil_subset _
  | plain attributes fields ih => exact ih
  | unnamed attributes inner fields noName ihInner ih =>
      intro kept
      rw [passedFields_unnamed noName, definitionsWithin_unnamed noName]
      exact List.subset_append_of_subset_right _ (ih kept)
  | named attributes inner fields name hasName ihInner ih =>
      intro kept other other_mem
      rw [definitionsWithin_named hasName, List.mem_append]
      rw [passedFields_named hasName, List.mem_append] at other_mem
      exact other_mem.imp (passedAfter_subset (ihInner kept) ·) (ih _ ·)

theorem passedCommons_subset (commons : List CommonStructure) :
    ∀ kept, passedCommons commons kept ⊆ commons.flatMap definitions := by
  induction commons with
  | nil => exact fun kept => List.nil_subset _
  | cons common commons ih =>
      intro kept other other_mem
      rw [List.flatMap_cons, List.mem_append]
      rcases List.mem_append.mp other_mem with here | behind
      · exact Or.inl (passedAfter_subset (passedFields_subset common.fields kept) here)
      · exact Or.inr (ih _ behind)

section Kept

variable {inside keepInside : List CommonStructure → List CommonStructure}

theorem isKept_of_mem_passedAfter
    (isKeptInside : other ∈ inside kept → isKept (keepInside kept) other.name = true)
    (other_mem : other ∈ passedAfter inside kept definition) :
    isKept (keepAfter keepInside kept definition) other.name = true := by
  unfold passedAfter at other_mem
  unfold keepAfter
  split at other_mem
  · rename_i recorded
    cases List.mem_singleton.mp other_mem
    rwa [if_pos recorded]
  · rename_i isNew
    rw [if_neg isNew]
    exact isKept_keep.mpr (Or.inr (isKeptInside other_mem))

theorem isKept_of_mem_passedFields (fields : List Field) :
    ∀ kept, other ∈ passedFields fields kept →
      isKept (keepFields fields kept) other.name = true := by
  induction fields using Field.definition_induction with
  | nil => exact fun kept other_mem => absurd other_mem List.not_mem_nil
  | plain attributes fields ih => exact ih
  | unnamed attributes inner fields noName ihInner ih =>
      intro kept
      rw [passedFields_unnamed noName, keepFields_unnamed noName]
      exact ih kept
  | named attributes inner fields name hasName ihInner ih =>
      intro kept other_mem
      rw [keepFields_named hasName]
      rw [passedFields_named hasName] at other_mem
      rcases List.mem_append.mp other_mem with here | behind
      · apply isKept_keepFields fields
        exact isKept_of_mem_passedAfter (ihInner kept) here
      · exact ih _ behind

theorem isKept_of_mem_passedCommons (commons : List CommonStructure) :
    ∀ kept, other ∈ passedCommons commons kept →
      isKept (keepCommons commons kept) other.name = true := by
  induction commons with
  | nil => exact fun kept other_mem => absurd other_mem List.not_mem_nil
  | cons common commons ih =>
      intro kept other_mem
      rcases List.mem_append.mp other_mem with here | behind
      · apply isKept_keepCommons commons
        exact isKept_of_mem_passedAfter (isKept_of_mem_passedFields common.fields kept) here
      · exact ih _ behind

end Kept

/-- The names of definitions are not kept, and no two of the definitions have one name. -/
structure AreNew (kept definitions : List CommonStructure) : Prop where
  distinct : (definitions.map (·.name)).Nodup
  notKept : ∀ definition ∈ definitions, isKept kept definition.name = false

namespace AreNew

variable {first rest : List CommonStructure}

theorem of_append_left (areNew : AreNew kept (first ++ rest)) : AreNew kept first where
  distinct := by
    have distinct := areNew.distinct
    rw [List.map_append] at distinct
    exact distinct.of_append_left
  notKept other other_mem := areNew.notKept other (List.mem_append_left rest other_mem)

theorem of_append_right (areNew : AreNew kept (first ++ rest)) : AreNew kept rest where
  distinct := by
    have distinct := areNew.distinct
    rw [List.map_append] at distinct
    exact distinct.of_append_right
  notKept other other_mem := areNew.notKept other (List.mem_append_right first other_mem)

theorem keepAfter (areNew : AreNew kept (definition.definitions ++ rest)) :
    AreNew (keepAfter (keepFields definition.fields) kept definition) rest where
  distinct := areNew.of_append_right.distinct
  notKept other other_mem := by
    have isNew : ∀ added ∈ definition.definitions, ∀ kept, isKept kept other.name = false →
        isKept (keep kept added) other.name = false := by
      intro added added_mem kept notKept
      rw [isKept_eq_false_iff] at notKept ⊢
      intro name_mem
      rcases List.mem_map.mp name_mem with ⟨present, present_mem, sameName⟩
      rcases mem_of_mem_keep present_mem with old | rfl
      · exact notKept (sameName ▸ List.mem_map_of_mem old)
      · have distinct := areNew.distinct
        rw [List.map_append] at distinct
        exact (List.disjoint_of_nodup_append distinct) (List.mem_map_of_mem added_mem)
          (sameName ▸ List.mem_map_of_mem other_mem)
    refine keepAfter_preserves (fun kept => isKept kept other.name = false) ?_ ?_ kept
      (areNew.of_append_right.notKept other other_mem)
    · exact keepFields_preserves _ definition.fields fun added added_mem =>
        isNew added (List.mem_cons_of_mem definition added_mem)
    · exact isNew definition List.mem_cons_self

end AreNew

theorem passedAfter_append_eq_nil {rest : List CommonStructure}
    {later : List CommonStructure → List CommonStructure}
    (insideNone : ∀ kept, AreNew kept (definitionsWithin definition.fields) →
      passedFields definition.fields kept = [])
    (laterNone : ∀ kept, AreNew kept rest → later kept = [])
    (areNew : AreNew kept (definition.definitions ++ rest)) :
    passedAfter (passedFields definition.fields) kept definition ++
      later (keepAfter (keepFields definition.fields) kept definition) = [] := by
  have inside : AreNew kept (definitionsWithin definition.fields) := by
    have parts : AreNew kept ([definition] ++ definitionsWithin definition.fields) :=
      areNew.of_append_left
    exact parts.of_append_right
  rw [passedAfter, areNew.notKept definition List.mem_cons_self, if_neg Bool.false_ne_true,
    insideNone kept inside, laterNone _ areNew.keepAfter]
  rfl

theorem passedFields_eq_nil (fields : List Field) :
    ∀ kept, AreNew kept (definitionsWithin fields) → passedFields fields kept = [] := by
  induction fields using Field.definition_induction with
  | nil => exact fun kept areNew => rfl
  | plain attributes fields ih => exact ih
  | unnamed attributes inner fields noName ihInner ih =>
      intro kept areNew
      rw [definitionsWithin_unnamed noName] at areNew
      rw [passedFields_unnamed noName]
      exact ih kept areNew.of_append_right
  | named attributes inner fields name hasName ihInner ih =>
      intro kept areNew
      rw [definitionsWithin_named hasName] at areNew
      rw [passedFields_named hasName]
      exact passedAfter_append_eq_nil ihInner ih areNew

theorem passedCommons_append_eq_nil (commons : List CommonStructure) {rest : List CommonStructure}
    {later : List CommonStructure → List CommonStructure}
    (laterNone : ∀ kept, AreNew kept rest → later kept = []) :
    ∀ kept, AreNew kept (commons.flatMap definitions ++ rest) →
      passedCommons commons kept ++ later (keepCommons commons kept) = [] := by
  induction commons with
  | nil => exact laterNone
  | cons common commons ih =>
      intro kept areNew
      rw [List.flatMap_cons, List.append_assoc] at areNew
      rw [passedCommons, List.append_assoc]
      exact passedAfter_append_eq_nil (passedFields_eq_nil common.fields) ih areNew

end CommonStructure

namespace Document

open CommonStructure

variable {document : Document} {definition : CommonStructure}

/-- A definition stands in some list of fields of the document, or has such a list itself. -/
theorem exists_fields_of_mem_definitions (definition_mem : definition ∈ document.definitions) :
    ∃ fields, (definition.fields = fields ∨ definition ∈ definitionsWithin fields) ∧
      definitionsWithin fields ⊆ document.definitions ∧
      listsOf fields ⊆ document.fieldLists := by
  rcases List.mem_append.mp definition_mem with inCommon | inFields
  · rcases List.mem_flatMap.mp inCommon with ⟨common, common_mem, definition_mem⟩
    refine ⟨common.fields, ?_, ?_, ?_⟩
    · exact (List.mem_cons.mp definition_mem).imp_left (congrArg CommonStructure.fields)
    · intro inside inside_mem
      apply List.mem_append_left
      exact List.mem_flatMap.mpr ⟨common, common_mem, List.mem_cons_of_mem common inside_mem⟩
    · intro fields fields_mem
      exact List.mem_append_left _ (List.mem_flatMap.mpr ⟨common, common_mem, fields_mem⟩)
  · exact ⟨document.fields, Or.inr inFields, List.subset_append_right _ _,
      List.subset_append_right _ _⟩

theorem inside_subset_of_mem_definitions (definition_mem : definition ∈ document.definitions) :
    definitionsWithin definition.fields ⊆ document.definitions ∧
      listsOf definition.fields ⊆ document.fieldLists := by
  rcases exists_fields_of_mem_definitions definition_mem with ⟨fields, rfl | inside, isSubset⟩
  · exact isSubset
  · exact ⟨List.Subset.trans (definitionsWithin_subset_of_mem inside) isSubset.1,
      List.Subset.trans (listsOf_subset_of_mem inside) isSubset.2⟩

theorem passedOver_subset_definitions (document : Document) :
    document.passedOver ⊆ document.definitions := by
  intro definition definition_mem
  rw [definitions, List.mem_append]
  exact (List.mem_append.mp definition_mem).imp (passedCommons_subset _ _ ·)
    (passedFields_subset _ _ ·)

/-- A definition that is passed over has the name of one that is kept. -/
theorem name_of_mem_passedOver (definition_mem : definition ∈ document.passedOver) :
    definition.name ∈ document.keptStructures.map (·.name) := by
  rw [← isKept_iff_mem]
  rcases List.mem_append.mp definition_mem with inCommon | inFields
  · apply isKept_keepFields document.fields
    exact isKept_of_mem_passedCommons document.commonStructures [] inCommon
  · exact isKept_of_mem_passedFields document.fields _ inFields

/-- A document that defines no name twice has no definition that is passed over. -/
theorem passedOver_eq_nil
    (distinct : (document.definitions.map (·.name)).Nodup) : document.passedOver = [] := by
  have areNew : AreNew [] document.definitions := ⟨distinct, fun _ _ => rfl⟩
  exact passedCommons_append_eq_nil document.commonStructures (passedFields_eq_nil document.fields)
    [] areNew

end Document

end MessageGen
