import Mathlib.Data.List.DropRight
import Mathlib.Tactic.Common
import MessageGen.Text.Blank

/-!
# Trimmed texts

A text without blank ends is what trimming leaves of it when blanks surround it, and
trimming leaves such a text of any text.
-/

namespace MessageGen.Text

/-- A text of blanks only. -/
def AllBlank (text : List Char) : Prop :=
  ∀ character ∈ text, isBlank character = true

instance (text : List Char) : Decidable (AllBlank text) :=
  List.decidableBAll (isBlank · = true) text

/-- Neither the first nor the last character of a text is blank. -/
structure HasPlainEnds (text : List Char) : Prop where
  first : ∀ character, text.head? = some character → isBlank character = false
  last : ∀ character, text.getLast? = some character → isBlank character = false

variable {text front middle back : List Char} {character : Char}

theorem allBlank_nil : AllBlank [] := by
  simp [AllBlank]

theorem HasPlainEnds.append_append (frontPlain : HasPlainEnds front)
    (backPlain : HasPlainEnds back) (frontNonempty : front ≠ []) (backNonempty : back ≠ []) :
    HasPlainEnds (front ++ middle ++ back) := by
  constructor
  · intro character isHead
    rw [List.append_assoc, List.head?_append_of_ne_nil _ frontNonempty] at isHead
    exact frontPlain.first character isHead
  · intro character isLast
    rw [List.getLast?_append_of_ne_nil _ backNonempty] at isLast
    exact backPlain.last character isLast

theorem isBlank_eq_false_of_isDigit (digit : character.isDigit = true) :
    isBlank character = false := by
  have bounds : 48 ≤ character.toNat ∧ character.toNat ≤ 57 := by
    simpa [Char.isDigit, UInt32.le_iff_toNat_le] using digit
  simp [isBlank, blankRanges]
  omega

theorem isBlank_head_dropWhile (isHead : (text.dropWhile isBlank).head? = some character) :
    isBlank character = false := by
  have notBlank := List.head?_dropWhile_not isBlank text
  simpa [isHead] using notBlank

theorem dropWhile_eq_self_of_head
    (first : ∀ character, text.head? = some character → isBlank character = false) :
    text.dropWhile isBlank = text := by
  cases text with
  | nil => rfl
  | cons character rest => simp [first character rfl]

theorem trim_append (plain : HasPlainEnds text) (nonempty : text ≠ [])
    (frontBlank : AllBlank front) (backBlank : AllBlank back) :
    trim (front ++ text ++ back) = text := by
  have dropFront : (front ++ (text ++ back)).dropWhile isBlank = text ++ back := by
    rw [List.dropWhile_append_of_pos frontBlank]
    apply dropWhile_eq_self_of_head
    intro character isHead
    apply plain.first
    simpa [List.head?_append_of_ne_nil _ nonempty] using isHead
  have dropBack : (back.reverse ++ text.reverse).dropWhile isBlank = text.reverse := by
    rw [List.dropWhile_append_of_pos (by simpa [AllBlank] using backBlank)]
    apply dropWhile_eq_self_of_head
    intro character isHead
    apply plain.last
    simpa using isHead
  simp only [trim, List.append_assoc, dropFront, List.reverse_append, dropBack,
    List.reverse_reverse]

theorem exists_append_trim (text : List Char) :
    ∃ front back, text = front ++ trim text ++ back ∧ AllBlank front ∧ AllBlank back := by
  refine ⟨text.takeWhile isBlank, (text.dropWhile isBlank).rtakeWhile isBlank, ?_, ?_, ?_⟩
  · change text = _ ++ (text.dropWhile isBlank).rdropWhile isBlank ++ _
    rw [List.append_assoc, List.rdropWhile_append_rtakeWhile, List.takeWhile_append_dropWhile]
  · intro character character_mem
    exact List.mem_takeWhile_imp character_mem
  · intro character character_mem
    exact List.mem_rtakeWhile_imp character_mem

/-- Only blanks behind a text are trimmed if there is none in front of it. -/
theorem exists_trim_append
    (first : ∀ character, text.head? = some character → isBlank character = false) :
    ∃ back, text = trim text ++ back ∧ AllBlank back := by
  rcases exists_append_trim text with ⟨front, back, whole, frontBlank, backBlank⟩
  cases front with
  | nil => exact ⟨back, by simpa using whole, backBlank⟩
  | cons character front =>
      have notBlank := first character (by rw [whole]; rfl)
      rw [frontBlank character List.mem_cons_self] at notBlank
      cases notBlank

/-- Only blanks in front of a text are trimmed if there is none behind it. -/
theorem exists_trim_prepend
    (last : ∀ character, text.getLast? = some character → isBlank character = false) :
    ∃ front, text = front ++ trim text ∧ AllBlank front := by
  rcases exists_append_trim text with ⟨front, back, whole, frontBlank, backBlank⟩
  rcases List.eq_nil_or_concat back with rfl | ⟨back, character, rfl⟩
  · exact ⟨front, by simpa using whole, frontBlank⟩
  · have notBlank := last character (by rw [whole]; simp)
    rw [backBlank character (by simp)] at notBlank
    cases notBlank

theorem hasPlainEnds_trim (text : List Char) : HasPlainEnds (trim text) := by
  constructor
  · intro character isHead
    have isPrefix : trim text <+: text.dropWhile isBlank :=
      List.rdropWhile_prefix isBlank _
    rcases isPrefix with ⟨back, whole⟩
    have isDropHead : (text.dropWhile isBlank).head? = some character := by
      simp [← whole, isHead]
    exact isBlank_head_dropWhile isDropHead
  · intro character isLast
    have isDropHead : ((text.dropWhile isBlank).reverse.dropWhile isBlank).head? =
        some character := by
      simpa [trim] using isLast
    exact isBlank_head_dropWhile isDropHead

end MessageGen.Text
