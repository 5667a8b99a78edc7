import MessageGen.Class.Literal
import MessageGen.Proofs.Class.UnicodeEscapes

/-!
# String literals

A string default becomes a literal in which quotes, backslashes and some controls are
escaped. To say that nothing is lost, the literal is read back here by the rules of Java:
Unicode escapes are translated first, and then the content is read up to the first quote
that is not escaped, with all escape sequences that Java has. A line terminator in between
breaks the literal off, and three quotes open a text block instead.
-/

namespace MessageGen

open Text

namespace StringLiteral

/-- The escape sequences of one letter or sign, with what they stand for. -/
def simpleEscapes : List (UInt16 × UInt16) :=
  [(unit 'b', 0x08), (unit 's', 0x20), (unit 't', 0x09), (unit 'n', 0x0A), (unit 'f', 0x0C),
    (unit 'r', 0x0D), (unit '"', unit '"'), (unit '\x27', unit '\x27'), (unit '\\', unit '\\')]

/-- Whether a unit is an octal digit. -/
def isOctalDigit (digit : UInt16) : Bool :=
  unit '0' ≤ digit && digit ≤ unit '7'

/--
The value and the length of the escape sequence that follows a backslash. An octal one has
up to three digits, and only two if the first is above three.
-/
def readEscape? (text : List UInt16) : Option (UInt16 × Nat) :=
  match text with
  | [] => none
  | first :: _ =>
    match simpleEscapes.lookup first with
    | some value => some (value, 1)
    | none =>
      let digits := (text.takeWhile isOctalDigit).take (if first ≤ unit '3' then 3 else 2)
      if digits.isEmpty then none
      else some (digits.foldl (fun value digit => 8 * value + (digit - unit '0')) 0, digits.length)

/-- Whether a unit ends a line. -/
def IsLineTerminator (character : UInt16) : Prop :=
  character = unit '\n' ∨ character = unit '\r'

instance (character : UInt16) : Decidable (IsLineTerminator character) :=
  inferInstanceAs (Decidable (_ ∨ _))

/--
Reads the content of a literal up to its closing quote, behind some units of an escape
sequence that is read already. The second part is what follows the literal.
-/
def readContent? : Nat → List UInt16 → Option (List UInt16 × List UInt16)
  | _, [] => none
  | behind + 1, _ :: rest => readContent? behind rest
  | 0, first :: rest =>
    if first = unit '"' then some ([], rest)
    else if IsLineTerminator first then none
    else if first = unit '\\' then
      match readEscape? rest with
      | none => none
      | some (value, length) =>
        (readContent? length rest).map fun (content, after) => (value :: content, after)
    else (readContent? 0 rest).map fun (content, after) => (first :: content, after)

/-- Reads the string literal at the front of a text. The second part is what follows it. -/
def read? : List UInt16 → Option (List UInt16 × List UInt16)
  | [] => none
  | first :: rest =>
    if first = unit '"' ∧ rest.take 2 ≠ [unit '"', unit '"'] then readContent? 0 rest else none

example : read? (units "\"\\0\\12\\477\" + x".toList) =
    some ([0, 10, 39, unit '7'], units " + x".toList) := by
  decide

variable {character : Char} {text : List Char} {backslashes : Nat}

section Translation

open UnicodeEscape

/-- Each escaped character leaves an even number of backslashes, so no escape begins. -/
theorem translateFrom?_escapeCharacter (isEven : backslashes % 2 = 0) (rest : List Char) :
    ∃ others, others % 2 = 0 ∧
      translateFrom? (.outside backslashes) (escapeCharacter character ++ rest) =
        (translateFrom? (.outside others) rest).map (units (escapeCharacter character) ++ ·) := by
  unfold escapeCharacter
  split
  case h_2 =>
    refine ⟨backslashes + 1 + 1, by omega, ?_⟩
    rw [List.cons_append, translateFrom?_backslash (.inr (by simp)), List.singleton_append,
      translateFrom?_backslash (.inl (by omega))]
    simp [Function.comp_def]
  case h_6 notQuote notBackslash _ _ _ =>
    exact ⟨0, rfl, by simp [translateFrom?_of_ne_backslash notBackslash]⟩
  all_goals
    refine ⟨0, rfl, ?_⟩
    rw [List.cons_append, translateFrom?_backslash (.inr (by simp)), List.singleton_append,
      translateFrom?_of_ne_backslash (by decide)]
    simp [Function.comp_def]

theorem translateFrom?_escape (isEven : backslashes % 2 = 0) (rest : List Char) :
    translateFrom? (.outside backslashes) (escape text ++ '"' :: rest) =
      (translateFrom? (.outside 0) rest).map (units (escape text ++ ['"']) ++ ·) := by
  induction text generalizing backslashes with
  | nil => simp [escape, translateFrom?_of_ne_backslash]
  | cons character text ih =>
      rw [escape, List.flatMap_cons, List.append_assoc]
      rcases translateFrom?_escapeCharacter isEven _ with ⟨others, areEven, translated⟩
      rw [translated, ← escape, ih areEven]
      simp [Function.comp_def]

theorem translate?_quoted (text : List Char) :
    translate? ('"' :: (escape text ++ ['"'])) = some (units ('"' :: (escape text ++ ['"']))) := by
  rw [translate?, translateFrom?_of_ne_backslash (by decide), translateFrom?_escape (by decide)]
  simp [translateFrom?]

end Translation

section Reading

/-- A character without an escape sequence stands for itself. -/
theorem readContent?_unitsOf (notQuote : character ≠ '"') (notBackslash : character ≠ '\\')
    (notLineFeed : character ≠ '\n') (notReturn : character ≠ '\r') (rest : List UInt16) :
    readContent? 0 (unitsOf character ++ rest) =
      (readContent? 0 rest).map fun (content, after) => (unitsOf character ++ content, after) := by
  have plain : ∀ first ∈ unitsOf character, first ≠ unit '"' ∧ ¬IsLineTerminator first ∧
      first ≠ unit '\\' := by
    intro first first_mem
    refine ⟨?_, ?_, ?_⟩
    · rintro rfl
      exact notQuote ((unit_mem_unitsOf_iff (by decide)).mp first_mem)
    · rintro (rfl | rfl)
      · exact notLineFeed ((unit_mem_unitsOf_iff (by decide)).mp first_mem)
      · exact notReturn ((unit_mem_unitsOf_iff (by decide)).mp first_mem)
    · rintro rfl
      exact notBackslash ((unit_mem_unitsOf_iff (by decide)).mp first_mem)
  generalize unitsOf character = content at plain
  induction content with
  | nil => simp
  | cons first others ih =>
      rcases plain first List.mem_cons_self with ⟨notQuote, sameLine, notBackslash⟩
      rw [List.cons_append, readContent?, if_neg notQuote, if_neg sameLine, if_neg notBackslash,
        ih fun other other_mem => plain other (List.mem_cons_of_mem first other_mem)]
      simp [Function.comp_def]

theorem readContent?_escapeCharacter (rest : List UInt16) :
    readContent? 0 (units (escapeCharacter character) ++ rest) =
      (readContent? 0 rest).map fun (content, after) => (unitsOf character ++ content, after) := by
  unfold escapeCharacter
  split
  case h_6 notQuote notBackslash notLineFeed notReturn _ =>
    simpa using readContent?_unitsOf notQuote notBackslash notLineFeed notReturn rest
  all_goals rfl

theorem readContent?_escape (rest : List UInt16) :
    readContent? 0 (units (escape text) ++ unit '"' :: rest) = some (units text, rest) := by
  induction text with
  | nil => simp [escape, readContent?]
  | cons character text ih =>
      rw [escape, List.flatMap_cons, units_append, List.append_assoc, readContent?_escapeCharacter,
        ← escape, ih]
      simp

/-- The content does not start with a quote, so the opening quote is not one of three. -/
theorem head?_units_escape (text : List Char) :
    (units (escape text)).head? ≠ some (unit '"') := by
  cases text with
  | nil => simp [escape]
  | cons character text =>
      rw [escape, List.flatMap_cons, units_append]
      intro isQuote
      unfold escapeCharacter at isQuote
      split at isQuote
      case h_6 notQuote _ _ _ _ =>
        rcases List.exists_cons_of_ne_nil (unitsOf_ne_nil character) with ⟨first, others, written⟩
        have first_mem : first ∈ unitsOf character := written ▸ List.mem_cons_self
        simp only [units_cons, written, List.cons_append, List.head?_cons,
          Option.some.injEq] at isQuote
        rw [isQuote] at first_mem
        exact notQuote ((unit_mem_unitsOf_iff (by decide)).mp first_mem)
      all_goals cases isQuote

theorem read?_quoted (text : List Char) :
    read? (units ('"' :: (escape text ++ ['"']))) = some (units text, []) := by
  have opening : units ('"' :: (escape text ++ ['"'])) =
      unit '"' :: (units (escape text) ++ [unit '"']) := by
    rw [units_cons, units_append]
    rfl
  have noTextBlock : (units (escape text) ++ [unit '"']).take 2 ≠ [unit '"', unit '"'] := by
    have noQuote := head?_units_escape text
    generalize units (escape text) = content at noQuote
    cases content with
    | nil => simp
    | cons first others =>
        rintro isBlock
        simp_all
  rw [opening, read?, if_pos ⟨rfl, noTextBlock⟩, readContent?_escape]

end Reading

theorem line_terminator_not_mem_escape (isTerminator : character = '\n' ∨ character = '\r') :
    character ∉ escape text := by
  rw [escape, List.mem_flatMap]
  rintro ⟨source, -, character_mem⟩
  unfold escapeCharacter at character_mem
  split at character_mem
  case h_6 =>
    simp_all
  all_goals rcases isTerminator with rfl | rfl <;> simp at character_mem

theorem toList_stringLiteral (text : String) :
    (stringLiteral text).toList = '"' :: (escape text.toList ++ ['"']) := by
  simp [stringLiteral, escapeString]

theorem escapeString_injective : Function.Injective escapeString := by
  intro first second same
  have sameLiteral : stringLiteral first = stringLiteral second := by
    rw [stringLiteral, same, stringLiteral]
  have readFirst := read?_quoted first.toList
  rw [← toList_stringLiteral, sameLiteral, toList_stringLiteral, read?_quoted] at readFirst
  apply String.toList_injective
  apply units_injective
  simpa using readFirst.symm

/--
A string default, unless it is `null`, becomes the literal of its string. This literal has
no Unicode escape and no line terminator in it, and it is read as one string literal up to
its end, which stands for the string. So no two strings are escaped in the same way.
-/
theorem string_default_reads_back :
    (∀ (text field : String) (nullable : Bool), text ≠ "null" →
      FieldType.initializer field (.primitive .string) nullable (some (.string text)) =
        .ok (stringLiteral text)) ∧
    (∀ text : String,
      UnicodeEscape.translate? (stringLiteral text).toList = some (units (stringLiteral text).toList) ∧
      read? (units (stringLiteral text).toList) = some (units text.toList, []) ∧
      '\n' ∉ (stringLiteral text).toList ∧ '\r' ∉ (stringLiteral text).toList) ∧
    Function.Injective escapeString := by
  refine ⟨?_, ?_, escapeString_injective⟩
  · intro text field nullable notNull
    simp [FieldType.initializer, FieldType.defaultLiteral?, Json.defaultText?, notNull,
      PrimitiveType.literal?]
  · intro text
    rw [toList_stringLiteral]
    refine ⟨translate?_quoted _, read?_quoted _, ?_, ?_⟩
    · simp [line_terminator_not_mem_escape]
    · simp [line_terminator_not_mem_escape]

/-- The escape of a quote, a backslash at the end and a line feed stay what they are. -/
theorem string_default_reads_back_backslashes : "\\u0022\n\\" ≠ "null" ∧
    FieldType.initializer "Text" (.primitive .string) true (some (.string "\\u0022\n\\")) =
      .ok "\"\\\\u0022\\n\\\\\"" ∧
    read? (units "\"\\\\u0022\\n\\\\\"".toList) = some (units "\\u0022\n\\".toList, []) := by
  have notNull : "\\u0022\n\\" ≠ "null" := by decide
  have written : stringLiteral "\\u0022\n\\" = "\"\\\\u0022\\n\\\\\"" := by decide
  have made := string_default_reads_back.1 "\\u0022\n\\" "Text" true notNull
  have readBack := (string_default_reads_back.2.1 "\\u0022\n\\").2.1
  rw [written] at made readBack
  exact ⟨notNull, made, readBack⟩

end StringLiteral

end MessageGen
