import MessageGen.Class.Literal
import MessageGen.Json.Printer
import MessageGen.Proofs.Json.ScalarTexts
import MessageGen.Proofs.Text.Numerals

/-!
# Defaults of integer fields

A default of an integer field is an integer in decimal or hexadecimal digits, with at
most one minus sign, and in the range of the type. Its literal is the integer in decimal
with what the type puts around it. To say that nothing is lost, literals are read back
here by the rules of Java: a numeral without a suffix is an `int`, one with an `L` is a
`long`, and only behind a minus sign may it be one more than the greatest of its type.
-/

namespace MessageGen

open Text

/-! ## Integers in defaults -/

/-- Whether a text writes a size: decimal digits, or hexadecimal ones behind their mark. -/
inductive Text.WritesSize : List Char → Nat → Prop where
  | decimal {digits : List Char} {number : Nat} (numeral : IsNumeralOf 10 digits number) :
      WritesSize digits number
  | hexadecimal {mark : Char} {digits : List Char} {number : Nat}
      (isMark : mark = 'x' ∨ mark = 'X') (numeral : IsNumeralOf 16 digits number) :
      WritesSize ('0' :: mark :: digits) number

/-- Whether a text writes an integer: a size, with or without a minus sign. -/
inductive Text.WritesInteger : List Char → Int → Prop where
  | unsigned {size : List Char} {number : Nat} (written : WritesSize size number) :
      WritesInteger size number
  | negative {size : List Char} {number : Nat} (written : WritesSize size number) :
      WritesInteger ('-' :: size) (-number)

/-- Whether a default is a string or a number with the given text. The string `null` is none. -/
inductive Json.IsWrittenAs : Json → String → Prop where
  | string {text : String} (notNull : text ≠ "null") : IsWrittenAs (.string text) text
  | number (number : JsonNumber) : IsWrittenAs (.number number) (String.ofList number.print)

namespace PrimitiveType

/-- The types of integers. -/
def integers : List PrimitiveType :=
  [.int8, .int16, .uint16, .int32, .uint32, .int64]

/-- Whether an integer is in the range of a type. -/
def HoldsInteger (type : PrimitiveType) (number : Int) : Prop :=
  match type with
  | .int8 => -2 ^ 7 ≤ number ∧ number < 2 ^ 7
  | .int16 => -2 ^ 15 ≤ number ∧ number < 2 ^ 15
  | .uint16 => 0 ≤ number ∧ number < 2 ^ 16
  | .int32 => -2 ^ 31 ≤ number ∧ number < 2 ^ 31
  | .uint32 => 0 ≤ number ∧ number < 2 ^ 32
  | .int64 => -2 ^ 63 ≤ number ∧ number < 2 ^ 63
  | .bool | .float64 | .string | .bytes | .records | .uuid => False

/-- An integer in decimal, as a type decorates it. -/
def decorated (type : PrimitiveType) (number : Int) : String :=
  match type with
  | .int8 => "(byte) " ++ toString number
  | .int16 => "(short) " ++ toString number
  | .uint16 | .int32 => toString number
  | .uint32 | .int64 => toString number ++ "L"
  | .bool | .float64 | .string | .bytes | .records | .uuid => ""

end PrimitiveType

/-! ## Literals of integers -/

namespace IntegerLiteral

/-- The number of decimal digits below a bound. Behind a zero they would be octal. -/
def readDigits? (bound : Nat) : List Char → Option Nat
  | '0' :: _ :: _ => none
  | digits => (readDecimal? digits).filter (· < bound)

/-- The integer of digits behind an optional minus sign, which leaves room for one more. -/
def readSigned? (bound : Nat) : List Char → Option Int
  | '-' :: digits => (readDigits? (bound + 1) digits).map fun number : Nat => -(number : Int)
  | digits => (readDigits? bound digits).map fun number : Nat => (number : Int)

/-- The integer of an `int`, or of a `long` with its suffix. -/
def readOperand? (text : List Char) : Option Int :=
  if text.getLast? = some 'L' then readSigned? (2 ^ 63) text.dropLast
  else readSigned? (2 ^ 31) text

/-- The value of a literal; a cast keeps only the lowest bits. -/
def readLiteral? (text : List Char) : Option Int :=
  match text with
  | '(' :: 'b' :: 'y' :: 't' :: 'e' :: ')' :: ' ' :: operand =>
    (readOperand? operand).map (Int.bmod · (2 ^ 8))
  | '(' :: 's' :: 'h' :: 'o' :: 'r' :: 't' :: ')' :: ' ' :: operand =>
    (readOperand? operand).map (Int.bmod · (2 ^ 16))
  | operand => readOperand? operand

end IntegerLiteral

variable {text size : List Char} {character : Char} {number : Int} {bound : Nat}
  {type : PrimitiveType}

section Reading

theorem Text.IsNumeralOf.isDigit {value : Nat} (numeral : IsNumeralOf 10 text value)
    (character_mem : character ∈ text) : character.isDigit = true := by
  rcases numeral.2 with ⟨values, areDigits, -⟩
  exact (forall₂_isDigitOf_ten_iff.mp areDigits).1 character character_mem

theorem readSize?_eq_some_iff {value : Nat} :
    readSize? size = some value ↔ WritesSize size value := by
  constructor
  · intro isRead
    unfold readSize? at isRead
    split at isRead
    · exact .hexadecimal (.inl rfl) (readHex?_eq_some_iff_isNumeralOf.mp isRead)
    · exact .hexadecimal (.inr rfl) (readHex?_eq_some_iff_isNumeralOf.mp isRead)
    · exact .decimal (readDecimal?_eq_some_iff_isNumeralOf.mp isRead)
  · rintro (⟨numeral⟩ | ⟨rfl | rfl, numeral⟩)
    · unfold readSize?
      split
      · exact absurd (numeral.isDigit (List.mem_cons_of_mem _ List.mem_cons_self)) (by decide)
      · exact absurd (numeral.isDigit (List.mem_cons_of_mem _ List.mem_cons_self)) (by decide)
      · exact readDecimal?_eq_some_iff_isNumeralOf.mpr numeral
    · exact readHex?_eq_some_iff_isNumeralOf.mpr numeral
    · exact readHex?_eq_some_iff_isNumeralOf.mpr numeral

/-- No size starts with a sign, so a second sign is refused. -/
theorem Text.WritesSize.head_ne_minus {value : Nat} : ¬WritesSize ('-' :: size) value := by
  rintro ⟨numeral⟩
  exact absurd (numeral.isDigit List.mem_cons_self) (by decide)

theorem readInteger?_minus :
    readInteger? ('-' :: size) = (readSize? size).map fun value : Nat => -(value : Int) := by
  rw [readInteger?]
  cases readSize? size <;> rfl

theorem readInteger?_of_unsigned (noSign : ∀ size, text ≠ '-' :: size) :
    readInteger? text = (readSize? text).map fun value : Nat => (value : Int) := by
  unfold readInteger?
  split
  · exact absurd rfl (noSign _)
  · cases readSize? text <;> rfl

theorem readInteger?_eq_some_iff : readInteger? text = some number ↔ WritesInteger text number := by
  constructor
  · intro isRead
    by_cases hasSign : ∃ size, text = '-' :: size
    · rcases hasSign with ⟨size, rfl⟩
      rw [readInteger?_minus, Option.map_eq_some_iff] at isRead
      rcases isRead with ⟨value, sizeRead, rfl⟩
      exact .negative (readSize?_eq_some_iff.mp sizeRead)
    · rw [readInteger?_of_unsigned (not_exists.mp hasSign), Option.map_eq_some_iff] at isRead
      rcases isRead with ⟨value, sizeRead, rfl⟩
      exact .unsigned (readSize?_eq_some_iff.mp sizeRead)
  · rintro (⟨written⟩ | ⟨written⟩)
    · have noSign : ∀ size, text ≠ '-' :: size := by
        rintro size rfl
        exact written.head_ne_minus
      rw [readInteger?_of_unsigned noSign, readSize?_eq_some_iff.mpr written, Option.map_some]
    · rw [readInteger?_minus, readSize?_eq_some_iff.mpr written, Option.map_some]

end Reading

section Texts

namespace DecimalLayout

variable {layout : DecimalLayout} {digits : List Char}

theorem mem_of_mem_dropTrailingZeros (character_mem : character ∈ dropTrailingZeros digits) :
    character ∈ digits := by
  rw [dropTrailingZeros, List.mem_reverse] at character_mem
  exact List.mem_reverse.mp ((List.dropWhile_suffix _).subset character_mem)

theorem mem_plain {places : Int} (character_mem : character ∈ plain digits places) :
    character ∈ digits ∨ character ∈ ['0', '.'] := by
  unfold plain at character_mem
  split at character_mem
  · simp at character_mem ⊢
    tauto
  · simp at character_mem ⊢
    tauto
  split at character_mem
  · simp at character_mem ⊢
    tauto
  rcases List.mem_append.mp character_mem with before | after
  · exact .inl (List.mem_of_mem_take before)
  rcases List.mem_cons.mp after with rfl | after
  · exact .inr (by simp)
  · exact .inl (List.mem_of_mem_drop after)

theorem mem_scientific {exponent : Int}
    (character_mem : character ∈ layout.scientific digits exponent) :
    character ∈ digits ∨ character ∈ decimal exponent.natAbs ∨
      character ∈ ['.', 'e', '-'] ++ layout.exponentMark := by
  simp only [scientific, List.append_assoc, List.mem_append] at character_mem
  rcases character_mem with first | fraction | mark | exponentDigits
  · exact .inl (List.mem_of_mem_take first)
  · split at fraction
    · cases fraction
    rcases List.mem_cons.mp fraction with rfl | rest
    · exact .inr (.inr (by simp))
    · exact .inl (List.mem_of_mem_drop rest)
  · refine .inr (.inr ?_)
    split at mark
    · simp at mark ⊢
      tauto
    · exact List.mem_append_right _ mark
  · exact .inr (.inl exponentDigits)

/-- A laid out number is made of digits, a point, a sign and what marks an exponent. -/
theorem mem_write {value : Binary64} (character_mem : character ∈ layout.write value) :
    character.isDigit = true ∨ character ∈ ['.', 'e', '-'] ++ layout.exponentMark := by
  have ofSign (sign_mem : character ∈ if value.negative then ['-'] else []) :
      character ∈ ['.', 'e', '-'] ++ layout.exponentMark := by
    split at sign_mem
    · simp [List.mem_singleton.mp sign_mem]
    · cases sign_mem
  have ofPlain (plain_mem : character ∈ ['0', '.']) :
      character.isDigit = true ∨ character ∈ ['.', 'e', '-'] ++ layout.exponentMark := by
    rcases List.mem_pair.mp plain_mem with rfl | rfl
    · exact .inl rfl
    · exact .inr (by simp)
  simp only [write] at character_mem
  split at character_mem
  · rcases List.mem_append.mp character_mem with sign_mem | zero_mem
    · exact .inr (ofSign sign_mem)
    · exact ofPlain (by simp at zero_mem ⊢; tauto)
  rcases List.mem_append.mp character_mem with sign_mem | number_mem
  · exact .inr (ofSign sign_mem)
  have ofDigits (digits_mem : character ∈ dropTrailingZeros (decimal value.shortest.digits)) :
      character.isDigit = true :=
    Json.isDigit_of_mem_decimal (mem_of_mem_dropTrailingZeros digits_mem)
  split at number_mem
  · exact (mem_plain number_mem).elim (fun digits_mem => .inl (ofDigits digits_mem)) ofPlain
  rcases mem_scientific number_mem with digits_mem | exponent_mem | mark_mem
  · exact .inl (ofDigits digits_mem)
  · exact .inl (Json.isDigit_of_mem_decimal exponent_mem)
  · exact .inr mark_mem

end DecimalLayout

theorem Text.mem_signedDecimal (character_mem : character ∈ signedDecimal number) :
    character = '-' ∨ character.isDigit = true := by
  cases number with
  | ofNat size => exact .inr (Json.isDigit_of_mem_decimal character_mem)
  | negSucc predecessor =>
      rcases List.mem_cons.mp character_mem with isSign | digit_mem
      · exact .inl isSign
      · exact .inr (Json.isDigit_of_mem_decimal digit_mem)

theorem Text.ofList_signedDecimal (number : Int) :
    String.ofList (signedDecimal number) = toString number := by
  cases number with
  | ofNat size => rfl
  | negSucc predecessor =>
      rw [signedDecimal, String.ofList_cons]
      rfl

theorem JsonNumber.print_ne_null (number : JsonNumber) :
    String.ofList number.print ≠ "null" := by
  intro isNull
  have letter_mem : 'n' ∈ number.print := by
    rw [← String.toList_ofList (l := number.print), isNull]
    decide
  cases number with
  | integer value => exact absurd (mem_signedDecimal letter_mem) (by decide)
  | real value => exact absurd (DecimalLayout.mem_write letter_mem) (by decide)

end Texts

namespace IntegerLiteral

theorem readDigits?_decimal {size : Nat} (below : size < bound) :
    readDigits? bound (decimal size) = some size := by
  unfold readDigits?
  split
  · rename_i digit digits leadingZero
    exact absurd leadingZero (Json.decimal_ne_zero_cons size digit digits)
  · simp [below]

theorem readSigned?_signedDecimal (above : -(bound : Int) ≤ number) (below : number < bound) :
    readSigned? bound (signedDecimal number) = some number := by
  cases number with
  | ofNat size =>
      have sizeBelow : size < bound := Int.ofNat_lt.mp below
      rw [signedDecimal]
      unfold readSigned?
      split
      · rename_i digits hasSign
        have sign_mem : '-' ∈ decimal size := hasSign ▸ List.mem_cons_self
        exact absurd (Json.isDigit_of_mem_decimal sign_mem) (by decide)
      · rw [readDigits?_decimal sizeBelow]
        rfl
  | negSucc predecessor =>
      have sizeBelow : predecessor + 1 < bound + 1 := by omega
      rw [signedDecimal, readSigned?, readDigits?_decimal sizeBelow]
      rfl

theorem readOperand?_signedDecimal (above : -2 ^ 31 ≤ number) (below : number < 2 ^ 31) :
    readOperand? (signedDecimal number) = some number := by
  have noSuffix : (signedDecimal number).getLast? ≠ some 'L' := by
    intro isLast
    exact absurd (mem_signedDecimal (List.mem_of_getLast? isLast)) (by decide)
  rw [readOperand?, if_neg noSuffix]
  exact readSigned?_signedDecimal above below

/-- A cast to a smaller type keeps the integers of this type. -/
theorem map_bmod_readOperand? {modulus : Nat} (small : modulus ≤ 2 ^ 31)
    (above : -(modulus / 2 : Int) ≤ number) (below : number < (modulus + 1) / 2) :
    (readOperand? (signedDecimal number)).map (Int.bmod · modulus) = some number := by
  rw [readOperand?_signedDecimal (by omega) (by omega), Option.map_some,
    Int.bmod_eq_of_le above below]

theorem readOperand?_suffix (above : -2 ^ 63 ≤ number) (below : number < 2 ^ 63) :
    readOperand? (signedDecimal number ++ ['L']) = some number := by
  rw [readOperand?, if_pos List.getLast?_concat, List.dropLast_concat]
  exact readSigned?_signedDecimal above below

/-- An integer does not start like a cast. -/
theorem readLiteral?_signedDecimal (suffix : List Char) :
    readLiteral? (signedDecimal number ++ suffix) =
      readOperand? (signedDecimal number ++ suffix) := by
  have noCast : '(' ∉ signedDecimal number := by
    intro character_mem
    exact absurd (mem_signedDecimal character_mem) (by decide)
  rcases Json.exists_signedDecimal_eq_cons number with ⟨first, digits, isNumber, -⟩
  have notCast : first ≠ '(' := by
    rintro rfl
    exact noCast (isNumber ▸ List.mem_cons_self)
  rw [isNumber]
  unfold readLiteral?
  split <;> simp_all

theorem readLiteral?_decorated (holds : type.HoldsInteger number) :
    readLiteral? (type.decorated number).toList = some number := by
  have digits : (toString number).toList = signedDecimal number := by
    rw [← ofList_signedDecimal, String.toList_ofList]
  cases type with
  | bool | float64 | string | bytes | records | uuid => cases holds
  | int8 =>
      rw [PrimitiveType.decorated, String.toList_append, digits]
      exact map_bmod_readOperand? (by decide) holds.1 holds.2
  | int16 =>
      rw [PrimitiveType.decorated, String.toList_append, digits]
      exact map_bmod_readOperand? (by decide) holds.1 holds.2
  | uint16 | int32 =>
      rcases holds with ⟨above, below⟩
      rw [PrimitiveType.decorated, digits, ← List.append_nil (signedDecimal number),
        readLiteral?_signedDecimal, List.append_nil]
      exact readOperand?_signedDecimal (by omega) (by omega)
  | uint32 | int64 =>
      rcases holds with ⟨above, below⟩
      have suffix : "L".toList = ['L'] := rfl
      rw [PrimitiveType.decorated, String.toList_append, digits, suffix, readLiteral?_signedDecimal]
      exact readOperand?_suffix (by omega) (by omega)

end IntegerLiteral

section Defaults

variable {value : Json} {written : String}

theorem Json.IsWrittenAs.defaultText?_eq (isWritten : value.IsWrittenAs written) :
    value.defaultText? = some written := by
  cases isWritten <;> rfl

theorem Json.IsWrittenAs.ne_null (isWritten : value.IsWrittenAs written) : written ≠ "null" := by
  cases isWritten with
  | string notNull => exact notNull
  | number number => exact number.print_ne_null

theorem IntegerFormat.literal?_eq_some_iff {format : IntegerFormat} {literal : String} :
    format.literal? written = some literal ↔ ∃ number, WritesInteger written.toList number ∧
      (format.least ≤ number ∧ number ≤ format.greatest) ∧
      literal = format.before ++ toString number ++ format.after := by
  simp only [IntegerFormat.literal?, ← readInteger?_eq_some_iff, ← ofList_signedDecimal]
  cases readInteger? written.toList with
  | none => simp
  | some number => simp [eq_comm (a := literal)]

/-- The format of an integer type has the range of the type, and decorates as the type does. -/
theorem PrimitiveType.exists_integerFormat? (isInteger : type ∈ integers) :
    ∃ format, type.integerFormat? = some format ∧
      (∀ number, format.least ≤ number ∧ number ≤ format.greatest ↔ type.HoldsInteger number) ∧
      ∀ number : Int, format.before ++ toString number ++ format.after = type.decorated number := by
  simp only [integers, List.mem_cons, List.not_mem_nil, or_false] at isInteger
  rcases isInteger with rfl | rfl | rfl | rfl | rfl | rfl
  all_goals
    refine ⟨_, rfl, ?_, ?_⟩
    · intro number
      simp only [HoldsInteger]
      omega
    · intro number
      simp [decorated]

theorem PrimitiveType.literal?_eq_some_iff (isInteger : type ∈ integers) (value : Json)
    {literal : String} :
    type.literal? value written = some literal ↔ ∃ number, WritesInteger written.toList number ∧
      type.HoldsInteger number ∧ literal = type.decorated number := by
  rcases exists_integerFormat? isInteger with ⟨format, isFormat, range, decorates⟩
  have formatted : type.literal? value written = format.literal? written := by
    simp only [integers, List.mem_cons, List.not_mem_nil, or_false] at isInteger
    rcases isInteger with rfl | rfl | rfl | rfl | rfl | rfl
    all_goals rw [literal?, isFormat, Option.bind_some]
  simp only [formatted, IntegerFormat.literal?_eq_some_iff, range, decorates]

theorem FieldType.initializer_eq_ok_iff {field : String} {nullable : Bool} {literal : String}
    (isWritten : value.IsWrittenAs written) :
    initializer field (.primitive type) nullable (some value) = .ok literal ↔
      type.literal? value written = some literal := by
  simp only [initializer, defaultLiteral?, isWritten.defaultText?_eq, if_neg isWritten.ne_null]
  cases type.literal? value written <;> simp

theorem FieldType.eq_invalidDefault_of_initializer {field : String} {type : FieldType}
    {nullable : Bool} {error : GenerationError}
    (refused : initializer field type nullable (some value) = .error error) :
    error = .invalidDefault field value := by
  simp only [initializer] at refused
  split at refused
  · cases refused
  · exact (Except.error.inj refused).symm

end Defaults

namespace FieldType

/--
A default of an integer field is accepted exactly if it writes an integer in the range of
the type. Its literal is this integer in decimal, as the type decorates it, and is read
back as this integer. Every other default is refused as a wrong default of the field.
-/
theorem initializer_integer_exact (field : String) {type : PrimitiveType}
    (isInteger : type ∈ PrimitiveType.integers) (nullable : Bool) {value : Json}
    {written : String} (isWritten : value.IsWrittenAs written) :
    (∀ literal, initializer field (.primitive type) nullable (some value) = .ok literal ↔
      ∃ number, WritesInteger written.toList number ∧ type.HoldsInteger number ∧
        literal = type.decorated number) ∧
    (∀ literal number, initializer field (.primitive type) nullable (some value) = .ok literal →
      WritesInteger written.toList number →
      IntegerLiteral.readLiteral? literal.toList = some number) ∧
    (∀ error, initializer field (.primitive type) nullable (some value) = .error error ↔
      (¬∃ number, WritesInteger written.toList number ∧ type.HoldsInteger number) ∧
        error = .invalidDefault field value) := by
  have accepted (literal : String) :
      initializer field (.primitive type) nullable (some value) = .ok literal ↔
        ∃ number, WritesInteger written.toList number ∧ type.HoldsInteger number ∧
          literal = type.decorated number := by
    rw [initializer_eq_ok_iff isWritten, PrimitiveType.literal?_eq_some_iff isInteger]
  refine ⟨accepted, ?_, ?_⟩
  · intro literal number made writes
    rcases (accepted literal).mp made with ⟨other, otherWrites, holds, rfl⟩
    rw [← readInteger?_eq_some_iff] at writes otherWrites
    rw [IntegerLiteral.readLiteral?_decorated holds, ← otherWrites, writes]
  · intro error
    constructor
    · intro refused
      refine ⟨?_, eq_invalidDefault_of_initializer refused⟩
      rintro ⟨number, writes, holds⟩
      cases refused.symm.trans ((accepted _).mpr ⟨number, writes, holds, rfl⟩)
    · rintro ⟨noNumber, rfl⟩
      cases outcome : initializer field (.primitive type) nullable (some value) with
      | ok literal =>
          rcases (accepted literal).mp outcome with ⟨number, writes, holds, -⟩
          exact absurd ⟨number, writes, holds⟩ noNumber
      | error error => rw [eq_invalidDefault_of_initializer outcome]

/-- The least `long`, in hexadecimal with a zero in front, and a mark without digits. -/
theorem initializer_integer_exact_least :
    initializer "Offset" (.primitive .int64) false (some (.string "-0X08000000000000000")) =
      .ok "-9223372036854775808L" ∧
    IntegerLiteral.readLiteral? "-9223372036854775808L".toList = some (-2 ^ 63) ∧
    initializer "Size" (.primitive .int32) true (some (.string "0x")) =
      .error (.invalidDefault "Size" (.string "0x")) := by
  have least := initializer_integer_exact "Offset" (by decide : .int64 ∈ PrimitiveType.integers)
    false (.string (by decide : "-0X08000000000000000" ≠ "null"))
  have unmarked := initializer_integer_exact "Size" (by decide : .int32 ∈ PrimitiveType.integers)
    true (.string (by decide : "0x" ≠ "null"))
  have writes : WritesInteger "-0X08000000000000000".toList (-2 ^ 63) :=
    readInteger?_eq_some_iff.mp rfl
  have made := (least.1 _).mpr ⟨-2 ^ 63, writes, ⟨by decide, by decide⟩, rfl⟩
  refine ⟨made, least.2.1 _ _ made writes, (unmarked.2.2 _).mpr ⟨?_, rfl⟩⟩
  rintro ⟨number, sizeless, -⟩
  have isRead : readInteger? "0x".toList = none := by decide
  cases isRead.symm.trans (readInteger?_eq_some_iff.mpr sizeless)

end FieldType

end MessageGen
