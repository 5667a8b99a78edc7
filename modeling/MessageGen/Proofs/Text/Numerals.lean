import Mathlib.Data.List.Forall2
import Mathlib.Data.Nat.Digits.Defs
import Mathlib.Tactic.IntervalCases
import MessageGen.Proofs.Version.Grammar

/-!
# Numerals and the numbers that they write

A numeral is a nonempty text of digits of its base, and writes the number that has these
digits. Digits above nine are letters of either case. Reading a numeral gives exactly the
number that it writes, however long it is and with any number of zeros in front.
-/

namespace MessageGen.Text

/-- Whether a character is the digit of a value; the letters count in both cases. -/
def IsDigitOf (base : Nat) (character : Char) (value : Nat) : Prop :=
  value < base ∧ ("0123456789abcdef".toList[value]? = some character ∨
    "0123456789ABCDEF".toList[value]? = some character)

/-- Whether a text is a numeral of a number: nonempty, and made of the digits of the number. -/
def IsNumeralOf (base : Nat) (text : List Char) (number : Nat) : Prop :=
  text ≠ [] ∧ ∃ values, List.Forall₂ (IsDigitOf base) text values ∧
    Nat.ofDigits base values.reverse = number

variable {base : Nat} {character : Char} {text : List Char} {number value : Nat}
  {values : List Nat}

section Digits

theorem isDigit_iff_toNat : character.isDigit = true ↔
    48 ≤ character.toNat ∧ character.toNat ≤ 57 := by
  simp [Char.isDigit, UInt32.le_iff_toNat_le]

/-- The digits stand in three runs of characters. -/
theorem isDigitOf_iff_toNat (small : base ≤ 16) : IsDigitOf base character value ↔
    value < base ∧ (value < 10 ∧ character.toNat = 48 + value ∨
      10 ≤ value ∧ (character.toNat = 87 + value ∨ character.toNat = 55 + value)) := by
  refine and_congr_right fun below => ?_
  have bound : value < 16 := by omega
  interval_cases value <;> simp [← Char.toNat_inj] <;> omega

theorem isDigitOf_ten_iff :
    IsDigitOf 10 character value ↔ character.isDigit = true ∧ value = character.toNat - 48 := by
  rw [isDigitOf_iff_toNat (by decide), isDigit_iff_toNat]
  omega

theorem hexDigit?_eq_some_iff :
    hexDigit? character = some value ↔ IsDigitOf 16 character value := by
  have le_iff (left right : Char) : left ≤ right ↔ left.toNat ≤ right.toNat :=
    UInt32.le_iff_toNat_le
  rw [isDigitOf_iff_toNat (by decide), hexDigit?]
  simp only [isDigit_iff_toNat, Bool.and_eq_true, decide_eq_true_eq, le_iff, Char.reduceToNat]
  split_ifs <;> simp <;> omega

end Digits

section Reading

theorem ofDigits_reverse (base : Nat) (values : List Nat) :
    Nat.ofDigits base values.reverse = values.foldl (base * · + ·) 0 := by
  rw [Nat.ofDigits_eq_foldr, List.foldr_reverse]
  simp [Nat.add_comm]

theorem forall₂_isDigitOf_ten_iff : List.Forall₂ (IsDigitOf 10) text values ↔
    (∀ character ∈ text, character.isDigit = true) ∧
      values = text.map fun character => character.toNat - 48 := by
  induction text generalizing values with
  | nil => simp
  | cons first rest ih =>
      simp only [List.forall₂_cons_left_iff, isDigitOf_ten_iff, ih, List.forall_mem_cons,
        List.map_cons]
      constructor
      · rintro ⟨_, _, ⟨isDigit, rfl⟩, ⟨areDigits, rfl⟩, rfl⟩
        exact ⟨⟨isDigit, areDigits⟩, rfl⟩
      · rintro ⟨⟨isDigit, areDigits⟩, rfl⟩
        exact ⟨_, _, ⟨isDigit, rfl⟩, ⟨areDigits, rfl⟩, rfl⟩

theorem readDecimal?_eq_some_iff_isNumeralOf :
    readDecimal? text = some number ↔ IsNumeralOf 10 text number := by
  have same : Nat.ofDigitChars 10 text 0 =
      (text.map fun character => character.toNat - 48).foldl (10 * · + ·) 0 := by
    rw [List.foldl_map]
    rfl
  simp only [readDecimal?_eq_some_iff, IsNumeralOf, forall₂_isDigitOf_ten_iff, ofDigits_reverse,
    same]
  constructor
  · rintro ⟨nonempty, areDigits, isNumber⟩
    exact ⟨nonempty, _, ⟨areDigits, rfl⟩, isNumber⟩
  · rintro ⟨nonempty, _, ⟨areDigits, rfl⟩, isNumber⟩
    exact ⟨nonempty, areDigits, isNumber⟩

/-- The induction is on the digits that are left, behind those with a value already. -/
theorem foldlM_hexDigit?_eq_some_iff {start : Nat} :
    text.foldlM (fun value character => (hexDigit? character).map (16 * value + ·)) start =
        some number ↔
      ∃ values, List.Forall₂ (IsDigitOf 16) text values ∧
        values.foldl (16 * · + ·) start = number := by
  induction text generalizing start with
  | nil => simp
  | cons first rest ih =>
      simp only [List.foldlM_cons, Option.bind_eq_bind, Option.bind_eq_some_iff,
        Option.map_eq_some_iff, hexDigit?_eq_some_iff, ih, List.forall₂_cons_left_iff]
      constructor
      · rintro ⟨_, ⟨value, isDigit, rfl⟩, values, areDigits, isNumber⟩
        exact ⟨value :: values, ⟨value, values, isDigit, areDigits, rfl⟩, isNumber⟩
      · rintro ⟨_, ⟨value, values, isDigit, areDigits, rfl⟩, isNumber⟩
        exact ⟨_, ⟨value, isDigit, rfl⟩, values, areDigits, isNumber⟩

theorem readHex?_eq_some_iff_isNumeralOf :
    readHex? text = some number ↔ IsNumeralOf 16 text number := by
  simp [readHex?, IsNumeralOf, foldlM_hexDigit?_eq_some_iff, ofDigits_reverse]

end Reading

end MessageGen.Text
