import Mathlib.Data.String.Basic
import Mathlib.Order.Basic

/-!
# Texts as bytes

Texts are compared character by character, by code points. This is the order of their
UTF-8 bytes: of two characters the one with the smaller code point has the smaller bytes,
and neither is the beginning of the other. A character of ASCII is one byte, and this byte
stands nowhere in the bytes of another character.
-/

namespace MessageGen.Text

/-- The UTF-8 bytes of a text. -/
def bytes (text : String) : List UInt8 :=
  text.toUTF8.data.toList

theorem bytes_eq (text : String) : bytes text = text.toList.flatMap String.utf8EncodeChar := by
  rw [bytes, String.toUTF8_eq_toByteArray]
  conv_lhs => rw [← String.ofList_toList (s := text)]
  simp only [String.toByteArray_ofList, List.utf8Encode, List.data_toByteArray]

theorem length_flatMap_utf8EncodeChar (text : List Char) :
    (text.flatMap String.utf8EncodeChar).length = (String.ofList text).utf8ByteSize := by
  have asBytes := bytes_eq (String.ofList text)
  rw [String.toList_ofList] at asBytes
  rw [← asBytes]
  rfl

/-- Of two numbers with a last digit to base 64, the lower one has the lower rest or digit. -/
theorem lt_iff_digits {low high : Nat} :
    low < high ↔ low / 64 < high / 64 ∨ low / 64 = high / 64 ∧ low % 64 < high % 64 := by
  omega

theorem toNat_ofNat_of_lt {number : Nat} (small : number < 256) :
    (UInt8.ofNat number).toNat = number := by
  rw [UInt8.toNat_ofNat', Nat.mod_eq_of_lt small]

/-- The bytes of characters are ordered as the characters are, whatever follows them. -/
theorem utf8EncodeChar_append_lt {first second : Char} (less : first < second)
    (afterFirst afterSecond : List UInt8) :
    String.utf8EncodeChar first ++ afterFirst < String.utf8EncodeChar second ++ afterSecond := by
  have bound : second.val.toNat < 1114112 := by
    rcases second.valid with small | ⟨-, bounded⟩
    · exact small.trans (by decide)
    · exact bounded
  rw [Char.lt_def, UInt32.lt_iff_toNat_lt] at less
  simp only [String.utf8EncodeChar]
  generalize first.val.toNat = low at less ⊢
  generalize second.val.toNat = high at less bound ⊢
  have digits := less
  rw [lt_iff_digits, @lt_iff_digits (low / 64), @lt_iff_digits (low / 64 / 64)] at digits
  simp only [Nat.div_div_eq_div_mul, Nat.reduceMul] at digits
  -- The lead bytes tell encodings of different lengths apart; the digits order those of one length.
  split_ifs <;>
    simp (disch := omega) only [List.cons_append, List.nil_append, List.cons_lt_cons_iff,
      UInt8.lt_iff_toNat_lt, ← UInt8.toNat_inj, toNat_ofNat_of_lt, Nat.add_lt_add_iff_right,
      Nat.add_right_cancel_iff, Nat.mod_eq_of_lt (b := 8), Nat.mod_eq_of_lt (b := 16),
      Nat.mod_eq_of_lt (b := 32)] <;> omega

theorem flatMap_utf8EncodeChar_lt {first second : List Char} (less : first < second) :
    first.flatMap String.utf8EncodeChar < second.flatMap String.utf8EncodeChar := by
  induction first generalizing second with
  | nil =>
      cases second with
      | nil => exact absurd less (by simp)
      | cons character second =>
          cases encoded : String.utf8EncodeChar character with
          | nil => exact absurd encoded (by simp)
          | cons byte bytes =>
              rw [List.flatMap_nil, List.flatMap_cons, encoded]
              exact List.nil_lt_cons _ _
  | cons character first ih =>
      cases second with
      | nil => exact absurd less (by simp)
      | cons other second =>
          rw [List.flatMap_cons, List.flatMap_cons]
          rcases List.cons_lt_cons_iff.mp less with lessHere | ⟨rfl, lessLater⟩
          · exact utf8EncodeChar_append_lt lessHere _ _
          · exact List.append_left_lt (ih lessLater)

/-- The order of texts is that of their bytes. -/
theorem lt_iff_bytes_lt {first second : String} : first < second ↔ bytes first < bytes second := by
  have mono : ∀ {low high : String}, low < high → bytes low < bytes high := by
    intro low high less
    rw [bytes_eq, bytes_eq]
    exact flatMap_utf8EncodeChar_lt (String.lt_iff_toList_lt.mp less)
  refine ⟨mono, ?_⟩
  intro less
  rcases lt_trichotomy first second with isLess | rfl | isGreater
  · exact isLess
  · exact absurd less (List.lt_irrefl _)
  · exact absurd less (List.lt_asymm (mono isGreater))

theorem le_iff_bytes_le {first second : String} : first ≤ second ↔ bytes first ≤ bytes second := by
  rw [← not_lt, lt_iff_bytes_lt, List.not_lt]

section Ascii

variable {character : Char}

theorem utf8EncodeChar_of_ascii (isAscii : character.toNat < 128) :
    String.utf8EncodeChar character = [UInt8.ofNat character.toNat] := by
  have small : character.val.toNat ≤ 127 := Nat.le_of_lt_succ isAscii
  simp only [String.utf8EncodeChar, small, if_true]
  rfl

/-- The bytes of a character outside of ASCII are no characters of ASCII. -/
theorem le_of_mem_utf8EncodeChar (notAscii : 128 ≤ character.toNat) :
    ∀ byte ∈ String.utf8EncodeChar character, 128 ≤ byte.toNat := by
  have large : ¬character.val.toNat ≤ 127 := Nat.not_le_of_lt notAscii
  have isHigh {number : Nat} (above : 128 ≤ number) (below : number < 256) :
      128 ≤ (UInt8.ofNat number).toNat := by
    rwa [toNat_ofNat_of_lt below]
  simp only [String.utf8EncodeChar, large, if_false]
  split_ifs <;> simp only [List.forall_mem_cons, List.not_mem_nil, false_imp_iff, implies_true,
    and_true]
  · exact ⟨isHigh (by omega) (by omega), isHigh (by omega) (by omega)⟩
  · exact ⟨isHigh (by omega) (by omega), isHigh (by omega) (by omega),
      isHigh (by omega) (by omega)⟩
  · exact ⟨isHigh (by omega) (by omega), isHigh (by omega) (by omega),
      isHigh (by omega) (by omega), isHigh (by omega) (by omega)⟩

theorem ofNat_toNat_eq_iff (isAscii : character.toNat < 128) (other : Char)
    (otherAscii : other.toNat < 128) :
    UInt8.ofNat character.toNat = UInt8.ofNat other.toNat ↔ character = other := by
  rw [← UInt8.toNat_inj, toNat_ofNat_of_lt (by omega), toNat_ofNat_of_lt (by omega),
    Char.toNat_inj]

/-- A character of ASCII is in front of a text if its byte is in front of the bytes. -/
theorem head?_flatMap_utf8EncodeChar {text : List Char} (character : Char)
    (isAscii : character.toNat < 128)
    (isFirst : (text.flatMap String.utf8EncodeChar).head? = some (UInt8.ofNat character.toNat)) :
    ∃ rest, text = character :: rest := by
  cases text with
  | nil => cases isFirst
  | cons first rest =>
      refine ⟨rest, congrArg (· :: rest) ?_⟩
      rw [List.flatMap_cons] at isFirst
      by_cases firstAscii : first.toNat < 128
      · rw [utf8EncodeChar_of_ascii firstAscii, List.singleton_append, List.head?_cons,
          Option.some_inj] at isFirst
        exact (ofNat_toNat_eq_iff firstAscii character isAscii).mp isFirst
      · have isHigh := le_of_mem_utf8EncodeChar (Nat.le_of_not_lt firstAscii)
        rw [List.head?_append_of_ne_nil _ (by simp)] at isFirst
        have tooLow := isHigh _ (List.mem_of_mem_head? isFirst)
        rw [toNat_ofNat_of_lt (by omega)] at tooLow
        omega

end Ascii

end MessageGen.Text
