import MessageGen.Proofs.Json.ReadBack
import MessageGen.Proofs.Json.ScalarTexts

/-!
# Compact texts are read back

Reading the compact text of a value makes the same moves whatever follows it, as long as
no number can go on there, and it ends in the outline of the value.
-/

namespace MessageGen.Json

open Text

variable {text rest : List Char}

theorem next?_cons {first : Char} (notSpace : isSpace first = false) :
    next? (first :: text) = some (first, text) := by
  simp [next?, skipSpaces, List.dropWhile_cons_of_neg, notSpace]

/-- Whether every number of a value is an integer in range. -/
def IsPrintable (json : Json) : Prop :=
  ∀ number ∈ json.numbers, number.IsInteger ∧ number.InRange

theorem IsPrintable.of_mem_array {items : List Json} {item : Json}
    (printable : IsPrintable (array items)) (item_mem : item ∈ items) : IsPrintable item :=
  fun number number_mem => printable number (mem_numbers_array.mpr ⟨item, item_mem, number_mem⟩)

theorem IsPrintable.of_mem_object {entries : List (String × Json)} {entry : String × Json}
    (printable : IsPrintable (object entries)) (entry_mem : entry ∈ entries) :
    IsPrintable entry.2 :=
  fun number number_mem =>
    printable number (mem_numbers_object.mpr ⟨entry, entry_mem, number_mem⟩)

/-- Whether a scalar stands in front of a text, without blanks, and something after it. -/
def IsScannedAs (value : Outline) (rest text : List Char) : Prop :=
  ∃ first inside, text = first :: inside ∧ isSpace first = false ∧ first ≠ '[' ∧
    first ≠ '\x7b' ∧ scanScalar first inside = .done value rest

theorem isScannedAs_signedDecimal {value : Int} (inRange : (JsonNumber.integer value).InRange)
    (delimited : IsDelimited rest) :
    IsScannedAs (.number (.integer value)) rest (signedDecimal value ++ rest) := by
  rcases exists_signedDecimal_eq_cons value with ⟨first, digits, same, isNumeric⟩
  have notOther : ∀ other, other ≠ '-' → other.isDigit = false → first ≠ other := by
    rintro other notSign notDigit rfl
    simp [notSign, notDigit] at isNumeric
  have scanned := scanNumber_signedDecimal value delimited
  rw [same, List.cons_append] at scanned ⊢
  refine ⟨first, digits ++ rest, rfl, ?_, notOther _ (by decide) (by decide),
    notOther _ (by decide) (by decide), ?_⟩
  · simp [isSpace, notOther]
  · simp [scanScalar, notOther, isNumeric, scanned, Scan.outline, value?_decimal inRange]

/-- Induction over a value by the values inside its arrays and objects. -/
theorem value_induction {motive : Json → Prop} (null : motive .null)
    (boolean : ∀ value, motive (.boolean value)) (number : ∀ value, motive (.number value))
    (string : ∀ text, motive (.string text))
    (array : ∀ items, (∀ item ∈ items, motive item) → motive (.array items))
    (object : ∀ entries, (∀ entry ∈ entries, motive entry.2) → motive (.object entries)) :
    ∀ json, motive json :=
  @Json.rec motive (fun items => ∀ item ∈ items, motive item)
    (fun entries => ∀ entry ∈ entries, motive entry.2) (fun entry => motive entry.2)
    null boolean number string array object (by simp)
    (fun _ _ first others => List.forall_mem_cons.mpr ⟨first, others⟩) (by simp)
    (fun _ _ first others => List.forall_mem_cons.mpr ⟨first, others⟩) (fun _ _ holds => holds)

open Reading Relation

/-- The text of a value is read as the outline of the value wherever it stands. -/
def IsReadAsPrinted (json : Json) : Prop :=
  ∀ stack rest, IsDelimited rest →
    ReflTransGen Moves ⟨.value, stack, json.print ++ rest⟩ ⟨.place json.outline, stack, rest⟩

theorem isReadAsPrinted_of_isScannedAs {json : Json}
    (scanned : ∀ rest, IsDelimited rest → IsScannedAs json.outline rest (json.print ++ rest)) :
    IsReadAsPrinted json := by
  intro stack rest delimited
  rcases scanned rest delimited with ⟨first, inside, same, notSpace, notArray, notObject, isDone⟩
  rw [same]
  exact .single (.scalar (next?_cons notSpace) notArray notObject isDone)

theorem moves_printItems (item : Json) (items : List Json)
    (areRead : ∀ other ∈ item :: items, IsReadAsPrinted other) (before : List Outline)
    (stack : List Frame) (rest : List Char) :
    ReflTransGen Moves
      ⟨.value, .array before :: stack, printItems (item :: items) ++ ']' :: rest⟩
      ⟨.place (.array (before.reverse ++ outlineItems (item :: items)) .closed), stack, rest⟩ := by
  induction items generalizing item before with
  | nil =>
      have isRead := areRead item List.mem_cons_self (.array before :: stack) (']' :: rest)
        (isDelimited_cons (by decide))
      have close : Moves ⟨.place item.outline, .array before :: stack, ']' :: rest⟩
          ⟨.place ((Frame.array before).finish item.outline .closed), stack, rest⟩ :=
        .closeArray (next?_cons (by decide))
      simpa [printItems, outlineItems, Frame.finish] using isRead.tail close
  | cons next items ih =>
      let others := printItems (next :: items) ++ ']' :: rest
      have isRead := areRead item List.mem_cons_self (.array before :: stack) (',' :: others)
        (isDelimited_cons (by decide))
      have comma : Moves ⟨.place item.outline, .array before :: stack, ',' :: others⟩
          ⟨.value, .array (item.outline :: before) :: stack, others⟩ :=
        .nextItem (next?_cons (by decide))
      have othersRead := ih next (fun other other_mem =>
        areRead other (List.mem_cons_of_mem item other_mem)) (item.outline :: before)
      simpa [printItems, outlineItems, others] using (isRead.tail comma).trans othersRead

theorem moves_name (name : String) (before : List (Option String × Outline))
    (stack : List Frame) :
    Moves ⟨.name before, stack, printString name ++ ':' :: rest⟩
      ⟨.value, .object before (some name) :: stack, rest⟩ := by
  have opening : next? (printString name ++ ':' :: rest) = some ('"',
      name.toList.flatMap printCharacter ++ '"' :: ':' :: rest) := by
    rw [printString, List.cons_append, List.cons_append, next?_cons (by decide),
      List.append_assoc, List.singleton_append]
  have nameScanned : scanName (printString name ++ ':' :: rest) =
      .done (some name) (':' :: rest) := by
    simp [scanName, opening, scanString_printString]
  have colonScanned : scanColon (':' :: rest) = .done () rest := by
    have found : next? (':' :: rest) = some (':', rest) := next?_cons (by decide)
    simp [scanColon, found]
  exact .name nameScanned colonScanned

theorem moves_printEntries (name : String) (value : Json) (entries : List (String × Json))
    (areRead : ∀ entry ∈ (name, value) :: entries, IsReadAsPrinted entry.2)
    (before : List (Option String × Outline)) (stack : List Frame) (rest : List Char) :
    ReflTransGen Moves
      ⟨.name before, stack, printEntries ((name, value) :: entries) ++ '\x7d' :: rest⟩
      ⟨.place (.object (before.reverse ++ outlineEntries ((name, value) :: entries)) .closed),
        stack, rest⟩ := by
  induction entries generalizing name value before with
  | nil =>
      have isRead := areRead (name, value) List.mem_cons_self (.object before (some name) :: stack)
        ('\x7d' :: rest) (isDelimited_cons (by decide))
      have close : Moves
          ⟨.place value.outline, .object before (some name) :: stack, '\x7d' :: rest⟩
          ⟨.place ((Frame.object before (some name)).finish value.outline .closed), stack, rest⟩ :=
        .closeObject (next?_cons (by decide))
      have entryRead := (isRead.tail close).head (moves_name name before stack)
      simpa [printEntries, printEntry, outlineEntries, Frame.finish] using entryRead
  | cons next entries ih =>
      let others := printEntries (next :: entries) ++ '\x7d' :: rest
      have isRead := areRead (name, value) List.mem_cons_self (.object before (some name) :: stack)
        (',' :: others) (isDelimited_cons (by decide))
      have comma : Moves
          ⟨.place value.outline, .object before (some name) :: stack, ',' :: others⟩
          ⟨.name ((some name, value.outline) :: before), stack, others⟩ :=
        .nextEntry (next?_cons (by decide))
      have entryRead := (isRead.tail comma).head (moves_name name before stack)
      have othersRead := ih next.1 next.2
        (fun entry entry_mem => areRead entry (List.mem_cons_of_mem _ entry_mem))
        ((some name, value.outline) :: before)
      simpa [printEntries, printEntry, outlineEntries, others] using entryRead.trans othersRead

section Fronts

variable {stack last : List Frame} {value : Outline}

/-- No value has a closing bracket in front. -/
theorem exists_next?_of_value (moves : ReflTransGen Moves ⟨.value, stack, text⟩
    ⟨.place value, last, rest⟩) :
    ∃ first inside, next? text = some (first, inside) ∧ first ≠ ']' := by
  rcases moves.cases_head with same | ⟨_, move, -⟩
  · cases same
  · cases move with
    | emptyArray found | openArray found | emptyObject found | openObject found =>
        exact ⟨_, _, found, by decide⟩
    | scalar found _ _ scanned =>
        refine ⟨_, _, found, ?_⟩
        rintro rfl
        cases scanned

/-- No name has a closing brace in front. -/
theorem exists_next?_of_name {before : List (Option String × Outline)}
    (moves : ReflTransGen Moves ⟨.name before, stack, text⟩ ⟨.place value, last, rest⟩) :
    ∃ first inside, next? text = some (first, inside) ∧ first ≠ '\x7d' := by
  rcases moves.cases_head with same | ⟨_, move, -⟩
  · cases same
  · cases move with
    | name nameScanned =>
        unfold scanName at nameScanned
        split at nameScanned
        · cases nameScanned
        · rename_i first inside found
          refine ⟨first, inside, found, ?_⟩
          rintro rfl
          cases nameScanned

end Fronts

/-- A value without floating-point numbers is read as it is printed. -/
theorem isReadAsPrinted (json : Json) (printable : IsPrintable json) : IsReadAsPrinted json := by
  induction json using value_induction with
  | null =>
      apply isReadAsPrinted_of_isScannedAs
      intro rest _
      refine ⟨'n', ['u', 'l', 'l'] ++ rest, by simp [print], by decide, by decide, by decide, ?_⟩
      simp [scanScalar, scanWord, Scan.outline, outline]
  | boolean value =>
      apply isReadAsPrinted_of_isScannedAs
      intro rest _
      cases value with
      | true =>
          refine ⟨'t', ['r', 'u', 'e'] ++ rest, by simp [print], by decide, by decide, by decide,
            ?_⟩
          simp [scanScalar, scanWord, Scan.outline, outline]
      | false =>
          refine ⟨'f', ['a', 'l', 's', 'e'] ++ rest, by simp [print], by decide, by decide,
            by decide, ?_⟩
          simp [scanScalar, scanWord, Scan.outline, outline]
  | number number =>
      apply isReadAsPrinted_of_isScannedAs
      intro rest delimited
      rcases printable number (by simp [numbers]) with ⟨isInteger, inRange⟩
      cases number with
      | integer value =>
          simpa [print, JsonNumber.print, outline] using isScannedAs_signedDecimal inRange delimited
      | real value => cases isInteger
  | string text =>
      apply isReadAsPrinted_of_isScannedAs
      intro rest _
      refine ⟨'"', text.toList.flatMap printCharacter ++ '"' :: rest, by simp [print, printString],
        by decide, by decide, by decide, ?_⟩
      simp [scanScalar, scanString_printString, Scan.outline, outline]
  | array items ih =>
      intro stack rest delimited
      have areRead : ∀ item ∈ items, IsReadAsPrinted item :=
        fun item item_mem => ih item item_mem (printable.of_mem_array item_mem)
      cases items with
      | nil => exact .single (.emptyArray (next?_cons (by decide)) (next?_cons (by decide)))
      | cons item items =>
          have inside := moves_printItems item items areRead [] stack rest
          -- The loop looks past the bracket before it takes the array to hold anything.
          rcases exists_next?_of_value inside with ⟨first, others, found, nonempty⟩
          have opening : Moves ⟨.value, stack, (array (item :: items)).print ++ rest⟩
              ⟨.value, .array [] :: stack, printItems (item :: items) ++ ']' :: rest⟩ := by
            rw [print, List.cons_append, List.cons_append, List.append_assoc, List.singleton_append]
            exact .openArray (next?_cons (by decide)) found nonempty
          exact inside.head opening
  | object entries ih =>
      intro stack rest delimited
      have areRead : ∀ entry ∈ entries, IsReadAsPrinted entry.2 :=
        fun entry entry_mem => ih entry entry_mem (printable.of_mem_object entry_mem)
      cases entries with
      | nil => exact .single (.emptyObject (next?_cons (by decide)) (next?_cons (by decide)))
      | cons entry entries =>
          have inside := moves_printEntries entry.1 entry.2 entries areRead [] stack rest
          rcases exists_next?_of_name inside with ⟨first, others, found, nonempty⟩
          have opening : Moves ⟨.value, stack, (object (entry :: entries)).print ++ rest⟩
              ⟨.name [], stack, printEntries (entry :: entries) ++ '\x7d' :: rest⟩ := by
            rw [print, List.cons_append, List.cons_append, List.append_assoc, List.singleton_append]
            exact .openObject (next?_cons (by decide)) found nonempty
          exact inside.head opening

section Controls

theorem hasNoControls_printItems {items : List Json}
    (noControls : ∀ item ∈ items, HasNoControls item.print) : HasNoControls (printItems items) := by
  induction items with
  | nil => decide
  | cons item items ih =>
      rw [List.forall_mem_cons] at noControls
      have later : HasNoControls (',' :: printItems items) :=
        hasNoControls_cons.mpr ⟨by decide, ih noControls.2⟩
      cases items with
      | nil => exact noControls.1
      | cons next items => exact hasNoControls_append.mpr ⟨noControls.1, later⟩

theorem hasNoControls_printEntries {entries : List (String × Json)}
    (noControls : ∀ entry ∈ entries, HasNoControls entry.2.print) :
    HasNoControls (printEntries entries) := by
  induction entries with
  | nil => decide
  | cons entry entries ih =>
      rw [List.forall_mem_cons] at noControls
      have later : HasNoControls (',' :: printEntries entries) :=
        hasNoControls_cons.mpr ⟨by decide, ih noControls.2⟩
      have value : HasNoControls (':' :: entry.2.print) :=
        hasNoControls_cons.mpr ⟨by decide, noControls.1⟩
      have first : HasNoControls (printEntry entry) := by
        rw [printEntry]
        exact hasNoControls_append.mpr ⟨hasNoControls_printString entry.1, value⟩
      cases entries with
      | nil => exact first
      | cons next entries => exact hasNoControls_append.mpr ⟨first, later⟩

theorem hasNoControls_print (json : Json) (printable : json.IsPrintable) :
    HasNoControls json.print := by
  induction json using value_induction with
  | null => decide
  | boolean value => cases value <;> decide
  | number number =>
      cases number with
      | integer value => exact hasNoControls_signedDecimal value
      | real value =>
          have isInteger := (printable (.real value) (by simp [numbers])).1
          exact isInteger.elim
  | string text => exact hasNoControls_printString text
  | array items ih =>
      have inside := hasNoControls_printItems fun item item_mem =>
        ih item item_mem (printable.of_mem_array item_mem)
      exact hasNoControls_append.mpr ⟨hasNoControls_cons.mpr ⟨by decide, inside⟩, by decide⟩
  | object entries ih =>
      have inside := hasNoControls_printEntries fun entry entry_mem =>
        ih entry entry_mem (printable.of_mem_object entry_mem)
      exact hasNoControls_append.mpr ⟨hasNoControls_cons.mpr ⟨by decide, inside⟩, by decide⟩

end Controls

end MessageGen.Json
