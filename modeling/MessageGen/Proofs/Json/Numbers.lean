import MessageGen.Proofs.Json.Decoding
import MessageGen.Proofs.Json.Moves

/-!
# The integers of a text

An integer of a text lies in the range of 64-bit integers, signed or unsigned, wherever
it stands: the loop that reads an outline takes numbers from scans only, and a scan
makes an integer of nothing else.
-/

namespace MessageGen

/-- Whether a number is an integer. -/
def JsonNumber.IsInteger : JsonNumber → Prop
  | .integer _ => True
  | .real _ => False

instance : DecidablePred JsonNumber.IsInteger
  | .integer _ => .isTrue trivial
  | .real _ => .isFalse not_false

/-- Whether a number is one that a text can have: its integers are 64-bit integers. -/
def JsonNumber.InRange : JsonNumber → Prop
  | .integer value => -(Json.leastIntegerSize : Int) ≤ value ∧ value ≤ Json.greatestInteger
  | .real _ => True

namespace Json

namespace Outline

/-- A number stands somewhere in an outline. -/
inductive Has (number : JsonNumber) : Outline → Prop where
  | number : Has number (.number number)
  | part {outline part : Outline} (part_mem : part ∈ outline.parts) (has : Has number part) :
      Has number outline

/-- Whether the numbers of an outline are in range. -/
def InRange (outline : Outline) : Prop :=
  ∀ number, outline.Has number → number.InRange

variable {outline : Outline}

theorem InRange.of_mem_parts {part : Outline} (inRange : outline.InRange)
    (part_mem : part ∈ outline.parts) : part.InRange :=
  fun number has => inRange number (.part part_mem has)

theorem inRange_of_parts (notNumber : ∀ number, outline ≠ .number number)
    (inRange : ∀ part ∈ outline.parts, part.InRange) : outline.InRange := by
  intro number has
  cases has with
  | number => exact absurd rfl (notNumber number)
  | part part_mem has => exact inRange _ part_mem number has

theorem inRange_of_leaf (notNumber : ∀ number, outline ≠ .number number)
    (leaf : outline.parts = []) : outline.InRange :=
  inRange_of_parts notNumber (by simp [leaf])

theorem inRange_array {items : List Outline} {ending : Ending}
    (inRange : ∀ item ∈ items, item.InRange) : (array items ending).InRange :=
  inRange_of_parts (by simp) inRange

theorem inRange_object {entries : List (Option String × Outline)} {ending : Ending}
    (inRange : ∀ entry ∈ entries, entry.2.InRange) : (object entries ending).InRange := by
  apply inRange_of_parts (by simp)
  simpa [parts] using fun part name => inRange (name, part)

theorem inRange_number {number : JsonNumber} (inRange : number.InRange) :
    (Outline.number number).InRange := by
  intro other has
  cases has with
  | number => exact inRange
  | part part_mem has => cases part_mem

end Outline

theorem inRange_of_value? {text : NumberText} {number : JsonNumber}
    (hasValue : text.value? = some number) : number.InRange := by
  simp only [NumberText.value?] at hasValue
  split at hasValue
  · rename_i fits
    cases hasValue
    simp only [Bool.and_eq_true, decide_eq_true_eq] at fits
    simp only [JsonNumber.InRange]
    omega
  split at hasValue
  · rename_i fits
    cases hasValue
    simp only [Bool.and_eq_true, decide_eq_true_eq] at fits
    simp only [JsonNumber.InRange]
    omega
  · rcases Option.map_eq_some_iff.mp hasValue with ⟨_, -, rfl⟩
    trivial

theorem Scan.exists_of_outline_eq_done {α : Type} {outline : α → Outline} {scan : Scan α}
    {value : Outline} {rest : List Char} (scanned : scan.outline outline = .done value rest) :
    ∃ inner, outline inner = value := by
  cases scan with
  | done inner innerRest =>
      cases scanned
      exact ⟨inner, rfl⟩
  | failed fault => cases scanned

theorem inRange_of_scanScalar {first : Char} {text rest : List Char} {value : Outline}
    (scanned : scanScalar first text = .done value rest) : value.InRange := by
  unfold scanScalar at scanned
  split at scanned
  · rcases Scan.exists_of_outline_eq_done scanned with ⟨_ | text, rfl⟩
    all_goals exact Outline.inRange_of_leaf (by simp) rfl
  split at scanned
  · rcases Scan.exists_of_outline_eq_done scanned with ⟨_, rfl⟩
    exact Outline.inRange_of_leaf (by simp) rfl
  split at scanned
  · rcases Scan.exists_of_outline_eq_done scanned with ⟨_, rfl⟩
    exact Outline.inRange_of_leaf (by simp) rfl
  split at scanned
  · rcases Scan.exists_of_outline_eq_done scanned with ⟨_, rfl⟩
    exact Outline.inRange_of_leaf (by simp) rfl
  split at scanned
  · rcases Scan.exists_of_outline_eq_done scanned with ⟨parts, rfl⟩
    cases hasValue : parts.value? with
    | none => exact Outline.inRange_of_leaf (by simp) rfl
    | some number => exact Outline.inRange_number (inRange_of_value? hasValue)
  · cases scanned

/-- Whether the numbers in what the loop puts together are in range. -/
def Task.InRange : Task → Prop
  | .value => True
  | .name before => ∀ entry ∈ before, entry.2.InRange
  | .place outline => outline.InRange

/-- Whether the numbers in an open array or object are in range. -/
def Frame.InRange : Frame → Prop
  | .array before => ∀ item ∈ before, item.InRange
  | .object before _ => ∀ entry ∈ before, entry.2.InRange

theorem Frame.inRange_finish {frame : Frame} {value : Outline} {ending : Ending}
    (inRange : frame.InRange) (valueInRange : value.InRange) :
    (frame.finish value ending).InRange := by
  cases frame with
  | array before =>
      apply Outline.inRange_array
      intro item item_mem
      rcases List.mem_cons.mp (List.mem_reverse.mp item_mem) with rfl | item_mem
      · exact valueInRange
      · exact inRange item item_mem
  | object before name =>
      apply Outline.inRange_object
      intro entry entry_mem
      rcases List.mem_cons.mp (List.mem_reverse.mp entry_mem) with rfl | entry_mem
      · exact valueInRange
      · exact inRange entry entry_mem

namespace Reading

/-- Whether the numbers that were read so far are in range. -/
structure InRange (reading : Reading) : Prop where
  task : reading.task.InRange
  stack : ∀ frame ∈ reading.stack, frame.InRange

theorem InRange.of_moves {first second : Reading} (inRange : first.InRange)
    (moves : Moves first second) : second.InRange := by
  rcases inRange with ⟨task, stack⟩
  cases moves with
  | emptyArray => exact ⟨Outline.inRange_array (by simp), stack⟩
  | openArray => exact ⟨trivial, List.forall_mem_cons.mpr ⟨by simp [Frame.InRange], stack⟩⟩
  | emptyObject => exact ⟨Outline.inRange_object (by simp), stack⟩
  | openObject => exact ⟨by simp [Task.InRange], stack⟩
  | scalar _ _ _ scanned => exact ⟨inRange_of_scanScalar scanned, stack⟩
  | name => exact ⟨trivial, List.forall_mem_cons.mpr ⟨task, stack⟩⟩
  | nextItem =>
      rcases List.forall_mem_cons.mp stack with ⟨inside, outside⟩
      refine ⟨trivial, List.forall_mem_cons.mpr ⟨?_, outside⟩⟩
      exact List.forall_mem_cons.mpr ⟨task, inside⟩
  | nextEntry =>
      rcases List.forall_mem_cons.mp stack with ⟨inside, outside⟩
      exact ⟨List.forall_mem_cons.mpr ⟨task, inside⟩, outside⟩
  | closeArray | closeObject =>
      rcases List.forall_mem_cons.mp stack with ⟨inside, outside⟩
      exact ⟨Frame.inRange_finish inside task, outside⟩

theorem InRange.of_reflTransGen {first second : Reading} (inRange : first.InRange)
    (moves : Relation.ReflTransGen Moves first second) : second.InRange := by
  induction moves with
  | refl => exact inRange
  | tail _ last ih => exact ih.of_moves last

end Reading

/-- The numbers of a text that is read to its end are in range. -/
theorem inRange_ofText {text : List Char}
    (readable : (Outline.ofText text).1.passOver = .ok ()) : (Outline.ofText text).1.InRange := by
  have atStart : Reading.InRange ⟨.value, [], text⟩ := ⟨trivial, by simp⟩
  exact (atStart.of_reflTransGen (Reading.reflTransGen_done readable)).task

mutual

/-- The numbers in a value, at any depth. -/
def numbers : Json → List JsonNumber
  | .number value => [value]
  | .array items => numbersOfItems items
  | .object entries => numbersOfEntries entries
  | .null | .boolean _ | .string _ => []

def numbersOfItems : List Json → List JsonNumber
  | [] => []
  | item :: items => item.numbers ++ numbersOfItems items

def numbersOfEntries : List (String × Json) → List JsonNumber
  | [] => []
  | (_, value) :: entries => value.numbers ++ numbersOfEntries entries

end

variable {number : JsonNumber}

@[simp]
theorem numbers_string (text : String) : (string text).numbers = [] := by
  rw [numbers]

@[simp]
theorem numbers_boolean (value : Bool) : (boolean value).numbers = [] := by
  rw [numbers]

@[simp]
theorem numbers_null : null.numbers = [] := by
  rw [numbers]

@[simp]
theorem numbers_ofOption (text? : Option String) : (ofOption text?).numbers = [] := by
  cases text? <;> simp [ofOption]

theorem mem_numbers_array {items : List Json} :
    number ∈ (array items).numbers ↔ ∃ item ∈ items, number ∈ item.numbers := by
  rw [numbers]
  induction items with
  | nil => simp [numbersOfItems]
  | cons item items ih => simp [numbersOfItems, ih]

theorem mem_numbers_object {entries : List (String × Json)} :
    number ∈ (object entries).numbers ↔ ∃ entry ∈ entries, number ∈ entry.2.numbers := by
  rw [numbers]
  induction entries with
  | nil => simp [numbersOfEntries]
  | cons entry entries ih => simp [numbersOfEntries, ih]

end Json

end MessageGen
