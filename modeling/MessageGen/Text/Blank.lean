/-!
# Blank characters

Version ranges may be surrounded by blanks, and a blank is any character with the
Unicode property `White_Space`. The property is small and stable, so it is listed
here range by range. Digits and letters elsewhere in the library are ASCII only;
blanks are the one place where the whole of Unicode counts.
-/

namespace MessageGen.Text

/-- The code points with the property `White_Space`, as inclusive ranges. -/
def blankRanges : List (Nat × Nat) :=
  [(0x09, 0x0D), (0x20, 0x20), (0x85, 0x85), (0xA0, 0xA0), (0x1680, 0x1680),
    (0x2000, 0x200A), (0x2028, 0x2029), (0x202F, 0x202F), (0x205F, 0x205F), (0x3000, 0x3000)]

/-- A character is blank when its code point lies in one of `blankRanges`. -/
def isBlank (character : Char) : Bool :=
  blankRanges.any fun (first, last) => first ≤ character.toNat && character.toNat ≤ last

/-- Removes the blanks at both ends and keeps those inside. -/
def trim (text : List Char) : List Char :=
  ((text.dropWhile isBlank).reverse.dropWhile isBlank).reverse

/-- Every character that core counts as whitespace is blank. -/
theorem isBlank_of_isWhitespace {character : Char} (whitespace : character.isWhitespace) :
    isBlank character := by
  simp only [Char.isWhitespace, Bool.or_eq_true, decide_eq_true_eq] at whitespace
  rcases whitespace with ((rfl | rfl) | rfl) | rfl <;> decide

/-- Trimming leaves a text alone when neither end is blank. -/
theorem trim_eq_self {text : List Char}
    (first : ∀ character, text.head? = some character → isBlank character = false)
    (last : ∀ character, text.getLast? = some character → isBlank character = false) :
    trim text = text := by
  have front : text.dropWhile isBlank = text := by
    cases text with
    | nil => rfl
    | cons character rest => simp [first character rfl]
  have back : text.reverse.dropWhile isBlank = text.reverse := by
    rcases reversed : text.reverse with _ | ⟨character, rest⟩
    · rfl
    · have : text.getLast? = some character := by
        rw [← List.head?_reverse, reversed]; rfl
      simp [last character this]
  simp [trim, front, back]

end MessageGen.Text
