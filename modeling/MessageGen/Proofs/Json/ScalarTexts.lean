import MessageGen.Json.Printer
import MessageGen.Proofs.Json.Numbers

/-!
# The texts of strings and integers

A string is scanned character by character, each as it is written: as itself or as its
escape. An integer is scanned up to where no number can go on. None of these texts has
a control below the space.
-/

namespace MessageGen.Json

open Text

variable {text rest : List Char}

section Strings

theorem readHex?_padZeros {unit : Nat} (isControl : unit < 0x20) :
    readHex? (padZeros 4 (hex unit)) = some unit ∧ (padZeros 4 (hex unit)).length = 4 := by
  have all : ∀ unit < 0x20,
      readHex? (padZeros 4 (hex unit)) = some unit ∧ (padZeros 4 (hex unit)).length = 4 := by
    decide +kernel
  exact all unit isControl

theorem scanUnit_append {digits : List Char} {unit : Nat} (isRead : readHex? digits = some unit)
    (length : digits.length = 4) : scanUnit (digits ++ text) = .done unit text := by
  rcases digits with _ | ⟨first, _ | ⟨second, _ | ⟨third, _ | ⟨fourth, _ | _⟩⟩⟩⟩
  all_goals simp_all [scanUnit]

/-- A control without a letter of its own is written by its number and read by it. -/
theorem scanEscape_control {character : Char} (isControl : character.toNat < 0x20) :
    scanEscape ('u' :: (padZeros 4 (hex character.toNat) ++ text)) =
      .done (some character) text := by
  rcases readHex?_padZeros isControl with ⟨isRead, length⟩
  have notTrailing : isTrailing character.toNat = false := by
    simp only [isTrailing, Bool.and_eq_false_imp, decide_eq_true_eq, decide_eq_false_iff_not]
    omega
  have notLeading : isLeading character.toNat = false := by
    simp only [isLeading, Bool.and_eq_false_imp, decide_eq_true_eq, decide_eq_false_iff_not]
    omega
  simp only [scanEscape, scanUnit_append isRead length, notTrailing, notLeading, Char.ofNat_toNat]
  simp

theorem scanString_escape {character : Char} {escape reversed : List Char} {readable : Bool}
    (scanned : scanEscape (escape ++ text) = .done (some character) text) :
    scanString ('\\' :: (escape ++ text)) reversed readable =
      scanString text (character :: reversed) readable := by
  conv_lhs => rw [scanString]
  grind

theorem scanString_printCharacter (character : Char) (reversed : List Char) (readable : Bool) :
    scanString (printCharacter character ++ text) reversed readable =
      scanString text (character :: reversed) readable := by
  unfold printCharacter
  split
  case h_8 other notQuote notBackslash _ _ _ _ _ =>
    split
    · rename_i isControl
      exact scanString_escape (scanEscape_control isControl)
    · rename_i notControl
      conv_lhs => rw [List.singleton_append, scanString]
      rw [if_neg notQuote, if_neg notBackslash, if_neg notControl]
  all_goals exact scanString_escape rfl

theorem scanString_printString (content reversed : List Char) :
    scanString (content.flatMap printCharacter ++ '"' :: rest) reversed true =
      .done (some (String.ofList (reversed.reverse ++ content))) rest := by
  induction content generalizing reversed with
  | nil => simp [scanString]
  | cons character content ih =>
      rw [List.flatMap_cons, List.append_assoc, scanString_printCharacter, ih]
      simp

end Strings

section Numbers

/-- Whether no number can go on at the front of a text. -/
def IsDelimited (text : List Char) : Prop :=
  ∀ character ∈ text.head?, character.isDigit = false ∧ character ≠ '.' ∧ character ≠ 'e' ∧
    character ≠ 'E'

theorem isDelimited_nil : IsDelimited [] := by
  simp [IsDelimited]

theorem isDelimited_cons {character : Char} (between : character ∈ [',', ']', '\x7d', '\n']) :
    IsDelimited (character :: text) := by
  rintro _ ⟨⟩
  simp only [List.mem_cons, List.not_mem_nil, or_false] at between
  rcases between with rfl | rfl | rfl | rfl <;> decide

theorem isDigit_of_mem_decimal {number : Nat} {digit : Char} (digit_mem : digit ∈ decimal number) :
    digit.isDigit = true :=
  Nat.isDigit_of_mem_toDigits (by decide) (by decide) digit_mem

theorem scanDigits_decimal (number : Nat) (delimited : IsDelimited rest) :
    scanDigits (decimal number ++ rest) = .done (decimal number) rest := by
  have areDigits : ∀ digit ∈ decimal number, digit.isDigit = true :=
    fun _ digit_mem => isDigit_of_mem_decimal digit_mem
  have noneLeft : rest.takeWhile Char.isDigit = [] ∧ rest.dropWhile Char.isDigit = rest := by
    cases rest with
    | nil => simp
    | cons character rest => simp [(delimited character rfl).1]
  have nonempty : decimal number ≠ [] := Nat.toDigits_ne_nil
  unfold scanDigits
  rw [List.takeWhile_append_of_pos areDigits, List.dropWhile_append_of_pos areDigits, noneLeft.1,
    noneLeft.2, List.append_nil]
  split
  · rename_i isEmpty
    exact absurd isEmpty nonempty
  · rfl

theorem scanFraction_of_isDelimited (delimited : IsDelimited rest) :
    scanFraction rest = .done none rest := by
  unfold scanFraction
  split
  · exact absurd rfl (delimited '.' rfl).2.1
  · rfl

theorem scanExponent_of_isDelimited (delimited : IsDelimited rest) :
    scanExponent rest = .done none rest := by
  cases rest with
  | nil => rfl
  | cons letter rest =>
      rcases delimited letter rfl with ⟨-, -, notLower, notUpper⟩
      simp [scanExponent, notLower, notUpper]

theorem decimal_head_ne_zero {number : Nat} (positive : 0 < number) (digits : List Char) :
    decimal number ≠ '0' :: digits := by
  induction number using Nat.strongRecOn generalizing digits with
  | ind number ih =>
      intro same
      by_cases isDigit : number < 10
      · have all : ∀ digit < 10, 0 < digit → digit.digitChar ≠ '0' := by decide
        rw [decimal, Nat.toDigits_of_lt_base isDigit] at same
        exact all number isDigit positive (List.cons.inj same).1
      · rw [decimal, Nat.toDigits_of_base_le (by decide) (by omega)] at same
        rcases shorter : Nat.toDigits 10 (number / 10) with _ | ⟨first, others⟩
        · exact Nat.toDigits_ne_nil shorter
        · rw [shorter, List.cons_append] at same
          have isZero := (List.cons.inj same).1
          exact ih (number / 10) (by omega) (by omega) others (isZero ▸ shorter)

/-- A numeral has no zero in front of other digits. -/
theorem decimal_ne_zero_cons (number : Nat) (digit : Char) (digits : List Char) :
    decimal number ≠ '0' :: digit :: digits := by
  cases number with
  | zero => simp [decimal]
  | succ number => exact decimal_head_ne_zero (Nat.succ_pos number) _

theorem scanUnsigned_decimal (negative : Bool) (number : Nat) (delimited : IsDelimited rest) :
    scanUnsigned negative (decimal number ++ rest) =
      .done ⟨negative, decimal number, none, none⟩ rest := by
  unfold scanUnsigned
  rw [scanDigits_decimal number delimited]
  split
  · rename_i failed
    cases failed
  · rename_i digit digits _ leadingZero
    exact absurd (Scan.done.inj leadingZero).1 (decimal_ne_zero_cons number digit digits)
  · rename_i whole afterWhole _ scanned
    cases scanned
    simp [scanFraction_of_isDelimited delimited, scanExponent_of_isDelimited delimited]

theorem exists_signedDecimal_eq_cons (value : Int) :
    ∃ first digits, signedDecimal value = first :: digits ∧
      (first = '-' ∨ first.isDigit = true) := by
  cases value with
  | ofNat number =>
      rcases digits : decimal number with _ | ⟨first, others⟩
      · exact absurd digits Nat.toDigits_ne_nil
      · have first_mem : first ∈ decimal number := digits ▸ List.mem_cons_self
        exact ⟨first, others, digits, .inr (isDigit_of_mem_decimal first_mem)⟩
  | negSucc predecessor => exact ⟨'-', decimal (predecessor + 1), rfl, .inl rfl⟩

theorem scanNumber_signedDecimal (value : Int) (delimited : IsDelimited rest) :
    scanNumber (signedDecimal value ++ rest) =
      .done ⟨decide (value < 0), decimal value.natAbs, none, none⟩ rest := by
  cases value with
  | ofNat number =>
      have unsigned : scanNumber (decimal number ++ rest) =
          scanUnsigned false (decimal number ++ rest) := by
        unfold scanNumber
        split
        · rename_i hasSign
          rcases digits : decimal number with _ | ⟨first, others⟩
          · exact absurd digits Nat.toDigits_ne_nil
          · have sign_mem : '-' ∈ decimal number := by
              rw [digits, List.cons_append] at hasSign
              simp [digits, (List.cons.inj hasSign).1]
            exact absurd (isDigit_of_mem_decimal sign_mem) (by decide)
        · rfl
      exact unsigned.trans (scanUnsigned_decimal false number delimited)
  | negSucc predecessor =>
      rw [decide_eq_true (Int.negSucc_lt_zero predecessor)]
      exact scanUnsigned_decimal true (predecessor + 1) delimited

theorem value?_decimal {value : Int} (inRange : (JsonNumber.integer value).InRange) :
    NumberText.value? ⟨decide (value < 0), decimal value.natAbs, none, none⟩ =
      some (.integer value) := by
  simp only [JsonNumber.InRange] at inRange
  by_cases isNegative : value < 0
  · have size : 0 < value.natAbs ∧ value.natAbs ≤ leastIntegerSize := by omega
    have same : -(value.natAbs : Int) = value := by omega
    simpa [NumberText.value?, decimal, Nat.ofDigitChars_ten_toDigits, isNegative, size] using same
  · have size : value.natAbs ≤ greatestInteger := by omega
    have same : (value.natAbs : Int) = value := by omega
    simpa [NumberText.value?, decimal, Nat.ofDigitChars_ten_toDigits, isNegative, size] using same

end Numbers

section Controls

/-- Whether no control below the space stands in a text. -/
def HasNoControls (text : List Char) : Prop :=
  ∀ character ∈ text, 0x20 ≤ character.toNat

theorem hasNoControls_append {first second : List Char} :
    HasNoControls (first ++ second) ↔ HasNoControls first ∧ HasNoControls second :=
  List.forall_mem_append

theorem hasNoControls_cons {character : Char} :
    HasNoControls (character :: text) ↔ 0x20 ≤ character.toNat ∧ HasNoControls text :=
  List.forall_mem_cons

instance (text : List Char) : Decidable (HasNoControls text) :=
  List.decidableBAll (fun character : Char => 0x20 ≤ character.toNat) text

theorem hasNoControls_printCharacter (character : Char) :
    HasNoControls (printCharacter character) := by
  unfold printCharacter
  split
  case h_8 =>
    split
    · rename_i isControl
      have all : ∀ unit < 0x20, HasNoControls (['\\', 'u'] ++ padZeros 4 (hex unit)) := by
        decide +kernel
      exact all _ isControl
    · rename_i notControl
      exact hasNoControls_cons.mpr ⟨Nat.le_of_not_lt notControl, by decide⟩
  all_goals decide

theorem hasNoControls_printString (text : String) : HasNoControls (printString text) := by
  have content : HasNoControls (text.toList.flatMap printCharacter) := by
    intro character character_mem
    rcases List.mem_flatMap.mp character_mem with ⟨source, -, character_mem⟩
    exact hasNoControls_printCharacter source character character_mem
  have quote : HasNoControls ['"'] := by decide
  exact hasNoControls_append.mpr ⟨hasNoControls_cons.mpr ⟨by decide, content⟩, quote⟩

theorem hasNoControls_signedDecimal (value : Int) : HasNoControls (signedDecimal value) := by
  have digits : ∀ number, HasNoControls (decimal number) := by
    intro number digit digit_mem
    have isDigit := isDigit_of_mem_decimal digit_mem
    have bounds : 48 ≤ digit.toNat ∧ digit.toNat ≤ 57 := by
      simpa [Char.isDigit, UInt32.le_iff_toNat_le] using isDigit
    omega
  cases value with
  | ofNat number => exact digits number
  | negSucc predecessor => exact hasNoControls_cons.mpr ⟨by decide, digits _⟩

end Controls

end MessageGen.Json
