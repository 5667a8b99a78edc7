import MessageGen.Json.Decoding
import MessageGen.Proofs.Outcome

/-!
# Readers of outlines

A list is read if each of its items is and it ends with its bracket. A record is read
field by field, so what every slot preserves holds of any record that is read, and an
object that has all fields in order is read like the list of these fields.
-/

namespace MessageGen.Json

variable {α : Type}

theorem Ending.check_eq_ok_iff {ending : Ending} {value : Unit} :
    ending.check = .ok value ↔ ending = .closed := by
  cases ending <;> simp [check]

namespace Outline

/-- The values that an array or object holds. -/
def parts : Outline → List Outline
  | .array items _ => items
  | .object entries _ => entries.map (·.2)
  | _ => []

variable {read : Outline → Except Problem α} {items : List Outline} {ending : Ending}
  {values : List α}

theorem readItems_eq_ok_iff : readItems read items ending = .ok values ↔
    items.mapM read = .ok values ∧ ending = .closed := by
  simp only [readItems, Except.bind_eq_ok_iff, Except.pure_eq_ok_iff, Ending.check_eq_ok_iff]
  constructor
  · rintro ⟨_, made, _, closed, rfl⟩
    exact ⟨made, closed⟩
  · rintro ⟨made, closed⟩
    exact ⟨values, made, (), closed, rfl⟩

end Outline

/-- What is read as a value is passed over as well. -/
theorem passOver_of_ofOutline {depth : Nat} {outline : Outline} {value : Json}
    (isRead : ofOutline depth outline = .ok value) : outline.passOver = .ok () := by
  cases outline with
  | missing fault => simp [ofOutline] at isRead
  | array items ending =>
      cases depth with
      | zero => simp [ofOutline] at isRead
      | succ depth =>
          simp only [ofOutline, Except.map_eq_ok_iff, Outline.readItems_eq_ok_iff] at isRead
          rcases isRead with ⟨_, ⟨-, rfl⟩, -⟩
          rfl
  | object entries ending =>
      cases depth with
      | zero => simp [ofOutline] at isRead
      | succ depth =>
          simp only [ofOutline, Except.bind_eq_ok_iff, Ending.check_eq_ok_iff] at isRead
          rcases isRead with ⟨_, -, _, rfl, -⟩
          rfl
  | null | boolean value | number value | string text | unreadable => rfl

/-- Reads the value of a field into a record. -/
def Slot.readInto (record : α) (field : Slot α × Outline) : Except Problem α :=
  field.1.read record field.2

/-- The entry of an object that holds the value of a field. -/
def Slot.entry (field : Slot α × Outline) : Option String × Outline :=
  (some field.1.name, field.2)

namespace Shape

variable {shape : Shape α} {items : List Outline} {depth : Nat} {outline : Outline} {record : α}

theorem read_eq_ok_iff : shape.read depth outline = .ok record ↔ depth ≠ 0 ∧
    ((∃ entries ending, outline = .object entries ending ∧
        shape.readObject entries ending = .ok record) ∨
      ∃ items ending, outline = .array items ending ∧
        shape.readFields items ending = .ok record) := by
  cases outline <;> simp [read, Outline.unexpected, Except.ite_error_eq_ok_iff, malformed]

theorem passOver_of_read (isRead : shape.read depth outline = .ok record) :
    outline.passOver = .ok () := by
  rcases read_eq_ok_iff.mp isRead with
    ⟨-, ⟨entries, ending, rfl, made⟩ | ⟨items, ending, rfl, made⟩⟩
  · simp only [readObject, Except.bind_eq_ok_iff, Ending.check_eq_ok_iff] at made
    rcases made with ⟨_, -, _, rfl, -⟩
    rfl
  · simp only [readFields, Except.bind_eq_ok_iff, Except.ite_error_eq_ok_iff,
      Ending.check_eq_ok_iff] at made
    rcases made with ⟨_, -, -, _, rfl, -⟩
    rfl

/-- What the slots of a shape preserve holds of every record that is read by it. -/
theorem holds_of_read (holds : α → Prop) (blank : holds shape.blank)
    (kept : ∀ slot ∈ shape.slots, ∀ item ∈ outline.parts, ∀ before after, holds before →
      slot.read before item = .ok after → holds after)
    (isRead : shape.read depth outline = .ok record) : holds record := by
  rcases read_eq_ok_iff.mp isRead with
    ⟨-, ⟨entries, ending, rfl, made⟩ | ⟨items, ending, rfl, made⟩⟩
  · simp only [readObject, Except.bind_eq_ok_iff] at made
    rcases made with ⟨⟨last, seen⟩, folded, _, -, complete⟩
    have lastHolds : holds (last, seen).1 := by
      apply Except.holds_of_foldlM (fun state : α × List String => holds state.1) blank _ folded
      rintro ⟨_ | name, item⟩ entry_mem before after beforeHolds entryRead
      · cases entryRead
      · have item_mem : item ∈ Outline.parts (.object entries ending) :=
          List.mem_map_of_mem entry_mem
        simp only [readEntry] at entryRead
        split at entryRead
        · rcases Except.map_eq_ok_iff.mp entryRead with ⟨_, -, rfl⟩
          exact beforeHolds
        · rename_i slot found
          simp only [Except.ite_error_eq_ok_iff, Except.map_eq_ok_iff] at entryRead
          rcases entryRead with ⟨-, _, slotRead, rfl⟩
          exact kept slot (List.mem_of_find?_eq_some found) item item_mem _ _ beforeHolds slotRead
    split at complete
    · cases complete
    · cases complete
      exact lastHolds
  · simp only [readFields, Except.bind_eq_ok_iff, Except.ite_error_eq_ok_iff] at made
    rcases made with ⟨last, folded, -, _, -, complete⟩
    have lastHolds : holds last := by
      apply Except.holds_of_foldlM holds blank _ folded
      rintro ⟨slot, item⟩ pair_mem before after beforeHolds slotRead
      rcases List.of_mem_zip pair_mem with ⟨slot_mem, item_mem⟩
      exact kept slot slot_mem item item_mem before after beforeHolds slotRead
    split at complete
    · cases complete
    · cases complete
      exact lastHolds

/-- The entries of an object that has the fields of a shape in order. -/
def entries (shape : Shape α) (items : List Outline) : List (Option String × Outline) :=
  (shape.slots.zip items).map Slot.entry

/-- The names of the fields of a shape. -/
def names (shape : Shape α) : List String :=
  shape.slots.map (·.name)

theorem readEntry_entry {before after : List (Slot α)} {slot : Slot α} {record : α}
    {item : Outline} (slots : shape.slots = before ++ slot :: after)
    (distinct : shape.names.Nodup) :
    shape.readEntry (record, (before.map (·.name)).reverse) (Slot.entry (slot, item)) =
      (slot.read record item).map (·, ((before ++ [slot]).map (·.name)).reverse) := by
  simp only [names, slots, List.map_append, List.map_cons, List.nodup_append] at distinct
  have isUnread : slot.name ∉ before.map (·.name) :=
    fun name_mem => distinct.2.2 _ name_mem _ List.mem_cons_self rfl
  have notBefore : before.find? (·.name == slot.name) = none := by
    simp only [List.find?_eq_none, beq_iff_eq]
    exact fun other other_mem same => isUnread (same ▸ List.mem_map_of_mem other_mem)
  have found : shape.slots.find? (·.name == slot.name) = some slot := by
    simp [slots, notBefore]
  have notSeen : (before.map (·.name)).reverse.contains slot.name = false := by
    simpa using isUnread
  simp only [Slot.entry, readEntry, found, notSeen]
  simp

/-- The entries of an object in the order of the fields are read one field after another. -/
theorem foldlM_readEntry {before after : List (Slot α)} {record : α}
    (slots : shape.slots = before ++ after) (distinct : shape.names.Nodup)
    (length : items.length = after.length) :
    ((after.zip items).map Slot.entry).foldlM shape.readEntry
        (record, (before.map (·.name)).reverse) =
      ((after.zip items).foldlM Slot.readInto record).map (·, shape.names.reverse) := by
  -- The names that were read are those of the fields before, the last one first.
  induction after generalizing before items record with
  | nil => simp [names, slots, Except.map, pure, Except.pure]
  | cons slot after ih =>
      cases items with
      | nil => cases length
      | cons item items =>
          simp only [List.zip_cons_cons, List.map_cons, List.foldlM_cons,
            readEntry_entry slots distinct, Slot.readInto]
          cases slot.read record item with
          | error problem => rfl
          | ok next =>
              apply ih
              · simp [slots]
              · simpa using length

/-- An object with all fields in order is read like the list of the fields. -/
theorem readObject_entries (distinct : shape.names.Nodup)
    (length : items.length = shape.slots.length) :
    shape.readObject (shape.entries items) .closed =
      (shape.slots.zip items).foldlM Slot.readInto shape.blank := by
  have allSeen : shape.slots.find? (fun slot => slot.required &&
      !shape.names.reverse.contains slot.name) = none := by
    simp only [List.find?_eq_none]
    intro slot slot_mem
    have name_mem : slot.name ∈ shape.names := List.mem_map_of_mem slot_mem
    simp [name_mem]
  have folded : (shape.entries items).foldlM shape.readEntry (shape.blank, []) = _ :=
    foldlM_readEntry (List.nil_append _).symm distinct length
  rw [readObject, folded]
  cases (shape.slots.zip items).foldlM Slot.readInto shape.blank with
  | error problem => rfl
  | ok last => simp only [Except.map, bind, Except.bind, Ending.check, allSeen]

end Shape

end MessageGen.Json
