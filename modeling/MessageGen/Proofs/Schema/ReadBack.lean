import MessageGen.Proofs.Json.ReadBack
import MessageGen.Schema.Printer
import MessageGen.Schema.Reader

/-!
# Documents that are read back

The readers of fields, structures and documents read back what they have read. Of a
record only those parts have to be looked at that can be anything but a text or a truth
value.
-/

namespace MessageGen

open Json Outline

theorem Json.Slot.read_of_eq_ok_iff {α β : Type} {name : String} {required : Bool}
    {read : Outline → Except Problem β} {put : α → β → α} {before after : α} {item : Outline} :
    (Slot.of name required read put).read before item = .ok after ↔
      ∃ value, read item = .ok value ∧ put before value = after :=
  Except.map_eq_ok_iff

theorem fieldsToJson_eq_map (fields : List Field) :
    fieldsToJson fields = fields.map Field.toJson := by
  induction fields with
  | nil => rfl
  | cons field fields ih => rw [fieldsToJson, ih, List.map_cons]

section Fields

variable {inside depth : Nat} {readNested : Outline → Except Problem (List Field)}

/-- The parts of a field that can be more than a text or a truth value are read back. -/
structure Field.IsReadBack (inside : Nat) (readNested : Outline → Except Problem (List Field))
    (field : Field) : Prop where
  tag : Json.IsReadBack (readOptional (readInteger (-2147483648) 2147483647 "i32"))
    (field.tag.elim .null .ofInteger) field.tag
  default : Json.IsReadBack (readOptional (Json.ofOutline inside)) (field.default.getD .null)
    field.default
  fields : Json.IsReadBack (readOptional readNested) (nestedToJson field.fields) field.fields

theorem readsBack_default : ReadsBack (readOptional (Json.ofOutline inside)) (·.getD .null) := by
  have elim : (fun value? : Option Json => value?.getD .null) =
      fun value? => value?.elim .null id := by
    funext value?
    cases value? <;> rfl
  rw [elim]
  apply readsBack_readOptional (readsBack_ofOutline inside)
  rintro outline value notNull isRead rfl
  exact notNull (eq_null_of_ofOutline isRead)

theorem readsBack_nested
    (nested : ReadsBack readNested fun fields => .array (fieldsToJson fields)) :
    ReadsBack (readOptional readNested) nestedToJson := by
  have elim : nestedToJson = fun fields? => fields?.elim .null fun fields =>
      .array (fieldsToJson fields) := by
    funext fields?
    cases fields? <;> rfl
  rw [elim]
  exact readsBack_readOptional nested (by simp)

theorem readsBack_tag {least greatest : Int} {expected : String} :
    ReadsBack (readOptional (readInteger least greatest expected)) (·.elim .null Json.ofInteger) :=
  readsBack_readOptional readsBack_readInteger (by simp [Json.ofInteger])

theorem Field.isReadBack_of_read
    (nested : ReadsBack readNested fun fields => .array (fieldsToJson fields)) {outline : Outline}
    {field : Field} (inRange : outline.InRange)
    (isRead : (fieldShape inside readNested).read depth outline = .ok field) :
    field.IsReadBack inside readNested := by
  apply Shape.holds_of_read (Field.IsReadBack inside readNested) _ _ isRead
  · have absent : ∀ number ∈ Json.null.numbers, number.InRange := by simp
    exact ⟨⟨absent, rfl⟩, ⟨absent, rfl⟩, ⟨absent, rfl⟩⟩
  · intro slot slot_mem item item_mem before after settled slotRead
    have itemInRange := inRange.of_mem_parts item_mem
    simp only [fieldShape, textSlot, List.mem_cons, List.not_mem_nil, or_false] at slot_mem
    rcases slot_mem with rfl | rfl | rfl | rfl | rfl | rfl | rfl | rfl | rfl | rfl | rfl | rfl
    all_goals rcases Slot.read_of_eq_ok_iff.mp slotRead with ⟨value, valueRead, rfl⟩
    -- The last slot, the seventh and the sixth one are those of the three parts.
    on_goal 12 =>
      have readBack := readsBack_nested nested _ _ itemInRange valueRead
      exact ⟨settled.tag, settled.default, readBack⟩
    on_goal 7 =>
      have readBack := readsBack_default _ _ itemInRange valueRead
      exact ⟨settled.tag, readBack, settled.fields⟩
    on_goal 6 =>
      have readBack := readsBack_tag _ _ itemInRange valueRead
      exact ⟨readBack, settled.default, settled.fields⟩
    all_goals exact ⟨settled.tag, settled.default, settled.fields⟩

theorem Field.mem_numbers_toJson {number : JsonNumber} {field : Field} :
    number ∈ field.toJson.numbers ↔ number ∈ (field.tag.elim .null ofInteger).numbers ∨
      number ∈ (field.default.getD .null).numbers ∨
        number ∈ (nestedToJson field.fields).numbers := by
  rcases field with ⟨attributes, fields⟩
  simp [Field.toJson, mem_numbers_object]

theorem readsBack_fieldShape
    (nested : ReadsBack readNested fun fields => .array (fieldsToJson fields)) :
    ReadsBack ((fieldShape inside readNested).read depth) Field.toJson := by
  intro outline field inRange isRead
  have settled := Field.isReadBack_of_read nested inRange isRead
  constructor
  · intro number number_mem
    rcases Field.mem_numbers_toJson.mp number_mem with inTag | inDefault | inFields
    · exact settled.tag.inRange number inTag
    · exact settled.default.inRange number inDefault
    · exact settled.fields.inRange number inFields
  · have deep := (Shape.read_eq_ok_iff.mp isRead).1
    have distinct : (fieldShape inside readNested).names.Nodup := by
      simp [fieldShape, textSlot, Shape.names, Slot.of]
    rcases field with ⟨attributes, fields⟩
    have entries : (Field.toJson ⟨attributes, fields⟩).outline =
        .object ((fieldShape inside readNested).entries
          [.string attributes.name, .string attributes.type, .string attributes.versions,
            (ofOption attributes.nullableVersions).outline,
            (ofOption attributes.taggedVersions).outline,
            (attributes.tag.elim .null ofInteger).outline,
            (attributes.default.getD .null).outline, (ofOption attributes.about).outline,
            .boolean attributes.ignorable, .boolean attributes.mapKey,
            (ofOption attributes.entityType).outline, (nestedToJson fields).outline]) .closed :=
      rfl
    rw [entries, Shape.read, if_neg deep, Shape.readObject_entries distinct rfl]
    simp [fieldShape, textSlot, Slot.of, Slot.readInto, Except.map, bind, Except.bind, pure,
      Except.pure, settled.tag.isRead, settled.default.isRead, settled.fields.isRead,
      (isReadBack_ofOption _).isRead, Outline.readText, readFlag]

theorem readsBack_array_fields {readAll : Outline → Except Problem (List Field)}
    (nested : ReadsBack readNested fun fields => .array (fieldsToJson fields))
    (ofArray : ∀ items ending, readAll (.array items ending) =
      readItems (readFieldWith readNested depth) items ending)
    (onlyArrays : ∀ outline fields, readAll outline = .ok fields →
      ∃ items ending, outline = .array items ending) :
    ReadsBack readAll fun fields => .array (fieldsToJson fields) := by
  intro outline fields inRange isRead
  rcases onlyArrays outline fields isRead with ⟨items, ending, rfl⟩
  rw [ofArray] at isRead
  have readBack := isReadBack_items (readsBack_fieldShape nested) inRange isRead
  simp only [fieldsToJson_eq_map]
  exact ⟨readBack.1, (ofArray _ _).trans readBack.2⟩

/-- A list of fields is read back, however deep its fields nest. -/
theorem readsBack_readFieldList (depth : Nat) :
    ReadsBack (readFieldList depth) fun fields => .array (fieldsToJson fields) := by
  have onlyArrays : ∀ depth outline fields, readFieldList depth outline = .ok fields →
      ∃ items ending, outline = .array items ending := by
    intro depth outline fields isRead
    cases outline <;> simp [readFieldList, unexpected, malformed] at isRead ⊢
  induction depth using Nat.twoStepInduction with
  | zero =>
      intro outline fields _ isRead
      rcases onlyArrays 0 outline fields isRead with ⟨items, ending, rfl⟩
      cases isRead
  | one =>
      apply readsBack_array_fields _ (fun _ _ => rfl) (onlyArrays 1)
      intro outline fields _ isRead
      cases isRead
  | more depth ih _ => exact readsBack_array_fields ih (fun _ _ => rfl) (onlyArrays (depth + 2))

end Fields

section Documents

-- A structure may leave out its list of fields, which takes a level of nesting when it is
-- written. So these records are read back only where that level is left.
variable {depth : Nat}

theorem mem_numbers_fields {number : JsonNumber} {fields : List Field} :
    number ∈ (Json.array (fieldsToJson fields)).numbers ↔
      ∃ field ∈ fields, number ∈ field.toJson.numbers := by
  simp [fieldsToJson_eq_map, mem_numbers_array]

theorem CommonStructure.mem_numbers_toJson {number : JsonNumber} {common : CommonStructure} :
    number ∈ common.toJson.numbers ↔
      number ∈ (Json.array (fieldsToJson common.fields)).numbers := by
  simp [CommonStructure.toJson, mem_numbers_object]

theorem Document.mem_numbers_toJson {number : JsonNumber} {document : Document} :
    number ∈ document.toJson.numbers ↔ number ∈ (ofInteger document.apiKey).numbers ∨
      number ∈ (Json.array (document.commonStructures.map CommonStructure.toJson)).numbers ∨
        number ∈ (Json.array (fieldsToJson document.fields)).numbers := by
  simp [Document.toJson, mem_numbers_object]

/-- No fields are read back as long as there is a level of nesting left for their list. -/
theorem isReadBack_noFields :
    IsReadBack (readFieldList (depth + 1)) (.array (fieldsToJson [])) [] := by
  refine ⟨by simp [fieldsToJson, mem_numbers_array], ?_⟩
  cases depth <;> rfl

theorem CommonStructure.isReadBack_of_read {outline : Outline} {common : CommonStructure}
    (inRange : outline.InRange) (isRead : readCommonStructure (depth + 2) outline = .ok common) :
    IsReadBack (readFieldList (depth + 1)) (.array (fieldsToJson common.fields)) common.fields := by
  apply Shape.holds_of_read (fun common : CommonStructure => IsReadBack
    (readFieldList (depth + 1)) (.array (fieldsToJson common.fields)) common.fields) _ _ isRead
  · exact isReadBack_noFields
  · intro slot slot_mem item item_mem before after settled slotRead
    have itemInRange := inRange.of_mem_parts item_mem
    simp only [commonStructureShape, List.mem_cons, List.not_mem_nil, or_false] at slot_mem
    rcases slot_mem with rfl | rfl | rfl
    all_goals rcases Slot.read_of_eq_ok_iff.mp slotRead with ⟨value, valueRead, rfl⟩
    · exact settled
    · exact settled
    · exact readsBack_readFieldList _ _ _ itemInRange valueRead

theorem readsBack_readCommonStructure :
    ReadsBack (readCommonStructure (depth + 2)) CommonStructure.toJson := by
  intro outline common inRange isRead
  have settled := CommonStructure.isReadBack_of_read inRange isRead
  constructor
  · intro number number_mem
    exact settled.inRange number (CommonStructure.mem_numbers_toJson.mp number_mem)
  · have distinct : (commonStructureShape (depth + 1)).names.Nodup := by
      simp [commonStructureShape, Shape.names, Slot.of]
    have entries : common.toJson.outline = .object ((commonStructureShape (depth + 1)).entries
        [.string common.name, .string common.versions,
          (Json.array (fieldsToJson common.fields)).outline]) .closed :=
      rfl
    rw [entries]
    refine (Shape.readObject_entries distinct ?_).trans ?_
    · rfl
    simp [commonStructureShape, Slot.of, Slot.readInto, Except.map, bind, Except.bind, pure,
      Except.pure, settled.isRead, Outline.readText]

/-- The parts of a document that can be more than a text are read back. -/
structure Document.IsReadBack (depth : Nat) (document : Document) : Prop where
  apiKey : Json.IsReadBack (readInteger (-32768) 32767 "i16") (ofInteger document.apiKey)
    document.apiKey
  commonStructures : Json.IsReadBack (readList (depth + 3) readCommonStructure)
    (.array (document.commonStructures.map CommonStructure.toJson)) document.commonStructures
  fields : Json.IsReadBack (readFieldList (depth + 3)) (.array (fieldsToJson document.fields))
    document.fields

theorem Document.isReadBack_of_read {outline : Outline} {document : Document}
    (inRange : outline.InRange) (isRead : readDocument (depth + 4) outline = .ok document) :
    document.IsReadBack depth := by
  apply Shape.holds_of_read (Document.IsReadBack depth) _ _ isRead
  · refine ⟨⟨?_, rfl⟩, ⟨?_, rfl⟩, isReadBack_noFields⟩
    · simp [documentShape, ofInteger, numbers, noApiKey, JsonNumber.InRange, Json.greatestInteger,
        Json.leastIntegerSize]
    · simp [documentShape, mem_numbers_array]
  · intro slot slot_mem item item_mem before after settled slotRead
    have itemInRange := inRange.of_mem_parts item_mem
    simp only [documentShape, textSlot, List.mem_cons, List.not_mem_nil, or_false] at slot_mem
    rcases slot_mem with rfl | rfl | rfl | rfl | rfl | rfl | rfl
    all_goals rcases Slot.read_of_eq_ok_iff.mp slotRead with ⟨value, valueRead, rfl⟩
    on_goal 7 =>
      have readBack := readsBack_readFieldList _ _ _ itemInRange valueRead
      exact ⟨settled.apiKey, settled.commonStructures, readBack⟩
    on_goal 6 =>
      have readBack := readsBack_readList readsBack_readCommonStructure _ _ itemInRange valueRead
      exact ⟨settled.apiKey, readBack, settled.fields⟩
    on_goal 3 =>
      have readBack := readsBack_readInteger _ _ itemInRange valueRead
      exact ⟨readBack, settled.commonStructures, settled.fields⟩
    all_goals exact ⟨settled.apiKey, settled.commonStructures, settled.fields⟩

/-- A document is read back. -/
theorem readsBack_readDocument : ReadsBack (readDocument (depth + 4)) Document.toJson := by
  intro outline document inRange isRead
  have settled := Document.isReadBack_of_read inRange isRead
  constructor
  · intro number number_mem
    rcases Document.mem_numbers_toJson.mp number_mem with inKey | inCommon | inFields
    · exact settled.apiKey.inRange number inKey
    · exact settled.commonStructures.inRange number inCommon
    · exact settled.fields.inRange number inFields
  · have distinct : (documentShape (depth + 3)).names.Nodup := by
      simp [documentShape, textSlot, Shape.names, Slot.of]
    have entries : document.toJson.outline = .object ((documentShape (depth + 3)).entries
        [.string document.name, .string document.type, (ofInteger document.apiKey).outline,
          .string document.validVersions, (ofOption document.flexibleVersions).outline,
          (Json.array (document.commonStructures.map CommonStructure.toJson)).outline,
          (Json.array (fieldsToJson document.fields)).outline]) .closed :=
      rfl
    rw [entries]
    refine (Shape.readObject_entries distinct ?_).trans ?_
    · rfl
    simp [documentShape, textSlot, Slot.of, Slot.readInto, Except.map, bind, Except.bind, pure,
      Except.pure, settled.apiKey.isRead, settled.commonStructures.isRead, settled.fields.isRead,
      (isReadBack_ofOption _).isRead, Outline.readText]

end Documents

end MessageGen
