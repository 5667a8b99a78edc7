import MessageGen.Class.Identifier
import Mathlib.Data.List.TakeWhile
import Mathlib.Tactic.Common

/-!
# Characters of derived texts

Names are split, lowered and joined on their way to a path. What these texts are made of
follows from the characters of the names.
-/

namespace MessageGen

section Separators

variable {separator : Char} {text : List Char}

theorem Text.bne_of_not_mem (absent : separator ∉ text) :
    ∀ character ∈ text, (character != separator) = true := by
  intro character character_mem
  simp only [bne_iff_ne]
  rintro rfl
  exact absent character_mem

theorem Text.takeWhile_bne_append (absent : separator ∉ text) (rest : List Char) :
    (text ++ separator :: rest).takeWhile (· != separator) = text := by
  simp [List.takeWhile_append_of_pos (Text.bne_of_not_mem absent)]

theorem Text.dropWhile_bne_append (absent : separator ∉ text) (rest : List Char) :
    (text ++ separator :: rest).dropWhile (· != separator) = separator :: rest := by
  simp [List.dropWhile_append_of_pos (Text.bne_of_not_mem absent)]

theorem Text.dropWhile_bne_eq_nil (absent : separator ∉ text) :
    text.dropWhile (· != separator) = [] :=
  List.dropWhile_eq_nil_iff.mpr (Text.bne_of_not_mem absent)

end Separators

/-- The pieces of a text between separators are made of its other characters. -/
theorem Text.mem_of_mem_splitOn {separator : Char} {text : List Char} :
    ∀ piece ∈ text.splitOn separator, ∀ character ∈ piece,
      character ∈ text ∧ character ≠ separator := by
  induction text with
  | nil => simp
  | cons first rest ih =>
      rw [List.splitOn_cons_eq_if_modifyHead]
      intro piece piece_mem character character_mem
      split at piece_mem
      · rcases List.mem_cons.mp piece_mem with rfl | piece_mem
        · cases character_mem
        · exact (ih piece piece_mem character character_mem).imp_left (List.mem_cons_of_mem first)
      · rename_i isOther
        rcases pieces : rest.splitOn separator with _ | ⟨head, tail⟩
        · exact absurd pieces (List.splitOn_ne_nil separator rest)
        · rw [pieces] at ih piece_mem
          rcases List.mem_cons.mp piece_mem with rfl | piece_mem
          · rcases List.mem_cons.mp character_mem with rfl | character_mem
            · exact ⟨List.mem_cons_self, by simpa using isOther⟩
            · exact (ih head List.mem_cons_self character character_mem).imp_left
                (List.mem_cons_of_mem first)
          · exact (ih piece (List.mem_cons_of_mem head piece_mem) character
              character_mem).imp_left (List.mem_cons_of_mem first)

/-- Only small letters can be new in a lowered text. -/
theorem Text.mem_of_mem_lowerAscii {text : List Char} {character : Char}
    (notLower : character.isLower = false) (character_mem : character ∈ lowerAscii text) :
    character ∈ text := by
  rcases List.mem_map.mp character_mem with ⟨original, original_mem, rfl⟩
  by_cases isUpper : original.val ≥ 'A'.val ∧ original.val ≤ 'Z'.val
  · have bounds : 65 ≤ original.toNat ∧ original.toNat ≤ 90 := isUpper
    have lowered : original.toLower = ⟨original.val + ('a'.val - 'A'.val), _⟩ := dif_pos isUpper
    rw [lowered] at notLower
    change (decide ('a'.val ≤ original.val + 32) && decide (original.val + 32 ≤ 'z'.val)) = false
      at notLower
    simp [UInt32.le_iff_toNat_le] at notLower
    omega
  · have unchanged : original.toLower = original := dif_neg isUpper
    rwa [unchanged]

theorem isIdentifierPart_of_mem {text : List Char} (valid : isIdentifier text = true) :
    ∀ character ∈ text, isIdentifierPart character = true := by
  cases text with
  | nil => cases valid
  | cons first rest =>
      simp only [isIdentifier, Bool.and_eq_true, List.all_eq_true] at valid
      intro character character_mem
      rcases List.mem_cons.mp character_mem with rfl | character_mem
      · simp [isIdentifierPart, valid.1]
      · exact valid.2 character character_mem

theorem not_mem_of_isIdentifier {text : List Char} {character : Char}
    (valid : isIdentifier text = true) (excluded : isIdentifierPart character = false) :
    character ∉ text := by
  intro character_mem
  rw [isIdentifierPart_of_mem valid character character_mem] at excluded
  cases excluded

end MessageGen
