import Mathlib.Data.String.Basic
import MessageGen.Json.Printer
import MessageGen.Proofs.Json.Numbers

/-!
# Values that are read back

A reader reads back what it has read if it takes the value, written as JSON, to the same
value again. This follows for lists, optional values and values of any kind from the
same fact about their parts.
-/

namespace MessageGen.Json

mutual

/-- What can be read of the compact text of a value: all of it. -/
def outline : Json → Outline
  | .null => .null
  | .boolean value => .boolean value
  | .number value => .number value
  | .string text => .string text
  | .array items => .array (outlineItems items) .closed
  | .object entries => .object (outlineEntries entries) .closed

def outlineItems : List Json → List Outline
  | [] => []
  | item :: items => item.outline :: outlineItems items

def outlineEntries : List (String × Json) → List (Option String × Outline)
  | [] => []
  | (name, value) :: entries => (some name, value.outline) :: outlineEntries entries

end

theorem outlineItems_eq_map (items : List Json) : outlineItems items = items.map outline := by
  induction items with
  | nil => rfl
  | cons item items ih => rw [outlineItems, ih, List.map_cons]

variable {α : Type}

/-- A reader takes JSON to a value, and the numbers of the JSON are in range. -/
structure IsReadBack (read : Outline → Except Problem α) (json : Json) (value : α) : Prop where
  inRange : ∀ number ∈ json.numbers, number.InRange
  isRead : read json.outline = .ok value

/-- A reader reads back what it has read. -/
def ReadsBack (read : Outline → Except Problem α) (write : α → Json) : Prop :=
  ∀ outline value, outline.InRange → read outline = .ok value →
    IsReadBack read (write value) value

variable {read : Outline → Except Problem α} {write : α → Json}

theorem readsBack_readInteger {least greatest : Int} {expected : String} :
    ReadsBack (Outline.readInteger least greatest expected) fun value =>
      .number (.integer value) := by
  intro outline value inRange isRead
  unfold Outline.readInteger at isRead
  split at isRead
  · rename_i number
    split at isRead
    · rename_i bounded
      cases isRead
      refine ⟨?_, ?_⟩
      · simpa [numbers] using inRange _ .number
      · simp [Json.outline, Outline.readInteger, bounded]
    · cases isRead
  · cases isRead

section Optional

theorem readOptional_of_ne_null {outline : Outline} (notNull : outline ≠ .null) :
    Outline.readOptional read outline = (read outline).map some := by
  cases outline <;> simp_all [Outline.readOptional]

theorem outline_ne_null {json : Json} (notNull : json ≠ .null) : json.outline ≠ .null := by
  cases json <;> simp_all [outline]

theorem readsBack_readOptional (readsBack : ReadsBack read write)
    (notNull : ∀ outline value, outline ≠ .null → read outline = .ok value → write value ≠ .null) :
    ReadsBack (Outline.readOptional read) fun value? => value?.elim .null write := by
  intro outline value? inRange isRead
  by_cases isNull : outline = .null
  · subst isNull
    cases isRead
    exact ⟨by simp, rfl⟩
  · rw [readOptional_of_ne_null isNull, Except.map_eq_ok_iff] at isRead
    rcases isRead with ⟨value, isRead, rfl⟩
    have readBack := readsBack outline value inRange isRead
    have notNull := outline_ne_null (notNull outline value isNull isRead)
    refine ⟨readBack.inRange, ?_⟩
    refine (readOptional_of_ne_null notNull).trans ?_
    rw [readBack.isRead]
    rfl

theorem isReadBack_ofOption (text? : Option String) :
    IsReadBack (Outline.readOptional Outline.readText) (ofOption text?) text? := by
  cases text? <;> exact ⟨by simp, rfl⟩

end Optional

section Lists

variable {values : List α} {items : List Outline} {ending : Ending}

theorem mapM_outline (areReadBack : ∀ value ∈ values, IsReadBack read (write value) value) :
    (values.map fun value => (write value).outline).mapM read = .ok values := by
  induction values with
  | nil => rfl
  | cons value values ih =>
      rw [List.forall_mem_cons] at areReadBack
      simp [areReadBack.1.isRead, ih areReadBack.2, bind, Except.bind, pure, Except.pure]

/-- The items of a list are read back if each of them is. -/
theorem isReadBack_items (readsBack : ReadsBack read write)
    (inRange : (Outline.array items ending).InRange)
    (made : Outline.readItems read items ending = .ok values) :
    (∀ number ∈ (array (values.map write)).numbers, number.InRange) ∧
      Outline.readItems read (outlineItems (values.map write)) .closed = .ok values := by
  rw [Outline.readItems_eq_ok_iff] at made
  have areReadBack : ∀ value ∈ values, IsReadBack read (write value) value := by
    intro value value_mem
    rcases Except.exists_input_of_mapM made.1 value_mem with ⟨item, item_mem, isRead⟩
    exact readsBack item value (inRange.of_mem_parts item_mem) isRead
  constructor
  · simp only [mem_numbers_array, List.mem_map]
    rintro number ⟨_, ⟨value, value_mem, rfl⟩, number_mem⟩
    exact (areReadBack value value_mem).inRange number number_mem
  · rw [Outline.readItems_eq_ok_iff, outlineItems_eq_map, List.map_map]
    exact ⟨mapM_outline areReadBack, rfl⟩

theorem readsBack_readList {depth : Nat} {readItem : Nat → Outline → Except Problem α}
    (readsBack : ReadsBack (readItem depth) write) :
    ReadsBack (Outline.readList (depth + 1) readItem) fun values => .array (values.map write) := by
  intro outline values inRange isRead
  cases outline with
  | array items ending =>
      have readBack := isReadBack_items readsBack inRange isRead
      exact ⟨readBack.1, readBack.2⟩
  | _ => simp [Outline.readList, Outline.unexpected, malformed] at isRead

end Lists

section Entries

variable {name : String} {value : Json} {entries : List (String × Json)}

/-- The names of entries ascend. -/
def Ascends (entries : List (String × Json)) : Prop :=
  entries.Pairwise fun first second => first.1 < second.1

theorem mem_of_mem_insertEntry {entry : String × Json}
    (entry_mem : entry ∈ insertEntry name value entries) :
    entry = (name, value) ∨ entry ∈ entries := by
  fun_induction insertEntry name value entries with
  | case1 => simpa using entry_mem
  | case2 other otherValue rest isLess => simpa using entry_mem
  | case3 otherValue rest notLess =>
      rcases List.mem_cons.mp entry_mem with isNew | entry_mem
      · exact .inl isNew
      · exact .inr (List.mem_cons_of_mem _ entry_mem)
  | case4 other otherValue rest notLess notSame ih =>
      rcases List.mem_cons.mp entry_mem with isOld | entry_mem
      · exact .inr (List.mem_cons.mpr (.inl isOld))
      · exact (ih entry_mem).imp_right (List.mem_cons_of_mem _)

theorem Ascends.insertEntry (ascends : Ascends entries) :
    Ascends (insertEntry name value entries) := by
  fun_induction Json.insertEntry name value entries with
  | case1 => exact List.pairwise_singleton _ _
  | case2 other otherValue rest isLess =>
      refine List.pairwise_cons.mpr ⟨?_, ascends⟩
      intro entry entry_mem
      rcases List.mem_cons.mp entry_mem with rfl | entry_mem
      · exact isLess
      · exact lt_trans isLess (List.rel_of_pairwise_cons ascends entry_mem)
  | case3 otherValue rest notLess => exact List.pairwise_cons.mpr (List.pairwise_cons.mp ascends)
  | case4 other otherValue rest notLess notSame ih =>
      rcases List.pairwise_cons.mp ascends with ⟨first, others⟩
      refine List.pairwise_cons.mpr ⟨?_, ih others⟩
      intro entry entry_mem
      rcases mem_of_mem_insertEntry entry_mem with rfl | entry_mem
      · exact lt_of_le_of_ne (not_lt.mp notLess) (Ne.symm notSame)
      · exact first entry entry_mem

theorem insertEntry_of_last (isLast : ∀ entry ∈ entries, entry.1 < name) :
    insertEntry name value entries = entries ++ [(name, value)] := by
  induction entries with
  | nil => rfl
  | cons entry entries ih =>
      rw [List.forall_mem_cons] at isLast
      have notLess : ¬name < entry.1 := lt_asymm isLast.1
      have notSame : name ≠ entry.1 := ne_of_gt isLast.1
      simp [insertEntry, notLess, notSame, ih isLast.2]

/-- Reads an entry of an object and puts it among the entries before it. -/
def putEntry (read : Outline → Except Problem Json) (before : List (String × Json)) :
    Option String × Outline → Except Problem (List (String × Json))
  | (none, _) => .error malformed
  | (some name, outline) => (read outline).map fun value => insertEntry name value before

theorem ofOutline_object_eq_ok_iff {depth : Nat} {parts : List (Option String × Outline)}
    {ending : Ending} : ofOutline (depth + 1) (.object parts ending) = .ok value ↔
      ∃ entries, parts.foldlM (putEntry (ofOutline depth)) [] = .ok entries ∧
        ending = .closed ∧ .object entries = value := by
  simp only [ofOutline, Except.bind_eq_ok_iff, Except.pure_eq_ok_iff, Ending.check_eq_ok_iff,
    exists_const]
  rfl

theorem eq_null_of_ofOutline {depth : Nat} {outline : Outline}
    (isRead : ofOutline depth outline = .ok .null) : outline = .null := by
  cases outline with
  | null => rfl
  | array items ending => cases depth <;> simp [ofOutline, Except.map_eq_ok_iff] at isRead
  | object parts ending =>
      cases depth with
      | zero => simp [ofOutline] at isRead
      | succ depth => simp [ofOutline_object_eq_ok_iff] at isRead
  | boolean value | number value | string text | unreadable | missing fault =>
      simp [ofOutline] at isRead

/-- Entries in the order of their names are read one after another. -/
theorem foldlM_putEntry {read : Outline → Except Problem Json} {before : List (String × Json)}
    (ascends : Ascends (before ++ entries))
    (areReadBack : ∀ entry ∈ entries, IsReadBack read entry.2 entry.2) :
    (outlineEntries entries).foldlM (putEntry read) before = .ok (before ++ entries) := by
  induction entries generalizing before with
  | nil => simp [outlineEntries, pure, Except.pure]
  | cons entry entries ih =>
      rw [List.forall_mem_cons] at areReadBack
      have isLast : ∀ other ∈ before, other.1 < entry.1 :=
        fun other other_mem => (List.pairwise_append.mp ascends).2.2 other other_mem entry
          List.mem_cons_self
      rw [List.append_cons] at ascends ⊢
      rw [← ih ascends areReadBack.2, outlineEntries, List.foldlM_cons, putEntry,
        areReadBack.1.isRead, Except.map, insertEntry_of_last isLast]
      rfl

/-- Whether entries are in order and their values are read back. -/
structure AreReadBack (read : Outline → Except Problem Json) (entries : List (String × Json)) :
    Prop where
  ascends : Ascends entries
  values : ∀ entry ∈ entries, IsReadBack read entry.2 entry.2

theorem AreReadBack.of_putEntry {read : Outline → Except Problem Json}
    (readsBack : ReadsBack read id) {before after : List (String × Json)}
    {part : Option String × Outline} (inRange : part.2.InRange) (areReadBack : AreReadBack read before)
    (put : putEntry read before part = .ok after) : AreReadBack read after := by
  rcases part with ⟨_ | name, outline⟩
  · cases put
  · rcases Except.map_eq_ok_iff.mp put with ⟨value, isRead, rfl⟩
    refine ⟨areReadBack.ascends.insertEntry, ?_⟩
    intro entry entry_mem
    rcases mem_of_mem_insertEntry entry_mem with rfl | entry_mem
    · exact readsBack outline value inRange isRead
    · exact areReadBack.values entry entry_mem

/-- The entries of an object are read back, in the order of their names, if each of them is. -/
theorem isReadBack_object {depth : Nat} {parts : List (Option String × Outline)} {ending : Ending}
    (readsBack : ReadsBack (ofOutline depth) id) (inRange : (Outline.object parts ending).InRange)
    (isRead : ofOutline (depth + 1) (.object parts ending) = .ok value) :
    IsReadBack (ofOutline (depth + 1)) value value := by
  rcases ofOutline_object_eq_ok_iff.mp isRead with ⟨entries, folded, rfl, rfl⟩
  have areReadBack : AreReadBack (ofOutline depth) entries := by
    apply Except.holds_of_foldlM (AreReadBack (ofOutline depth)) _ _ folded
    · exact ⟨List.Pairwise.nil, by simp⟩
    · intro part part_mem before after beforeReadBack put
      have partInRange := inRange.of_mem_parts (List.mem_map_of_mem part_mem)
      exact beforeReadBack.of_putEntry readsBack partInRange put
  constructor
  · intro number number_mem
    rcases mem_numbers_object.mp number_mem with ⟨entry, entry_mem, number_mem⟩
    exact (areReadBack.values entry entry_mem).inRange number number_mem
  · have reread : (outlineEntries entries).foldlM (putEntry (ofOutline depth)) [] = .ok entries :=
      foldlM_putEntry areReadBack.ascends areReadBack.values
    exact ofOutline_object_eq_ok_iff.mpr ⟨entries, reread, rfl, rfl⟩

end Entries

/-- A value of any kind is read back. -/
theorem readsBack_ofOutline (depth : Nat) : ReadsBack (ofOutline depth) id := by
  -- Only the parts of a value take a level of nesting, so scalars are not split by depth.
  induction depth using Nat.strongRecOn with
  | ind depth ih =>
      intro outline value inRange isRead
      cases outline with
      | null | boolean other | string text =>
          simp only [ofOutline, Except.ok.injEq] at isRead
          subst isRead
          exact ⟨by simp, by simp [Json.outline, ofOutline]⟩
      | number number =>
          simp only [ofOutline, Except.ok.injEq] at isRead
          subst isRead
          exact ⟨by simpa [numbers] using inRange _ .number, by simp [Json.outline, ofOutline]⟩
      | unreadable | missing fault => simp [ofOutline] at isRead
      | array items ending =>
          cases depth with
          | zero => simp [ofOutline] at isRead
          | succ depth =>
              simp only [ofOutline, Except.map_eq_ok_iff] at isRead
              rcases isRead with ⟨values, made, rfl⟩
              have readBack := isReadBack_items (ih depth (Nat.lt_succ_self depth)) inRange made
              rw [List.map_id] at readBack
              refine ⟨readBack.1, ?_⟩
              simp [Json.outline, ofOutline, readBack.2, Except.map]
      | object parts ending =>
          cases depth with
          | zero => simp [ofOutline] at isRead
          | succ depth => exact isReadBack_object (ih depth (Nat.lt_succ_self depth)) inRange isRead

end MessageGen.Json
