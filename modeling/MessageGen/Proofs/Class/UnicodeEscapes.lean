import Mathlib.Tactic.Common
import Mathlib.Tactic.SplitIfs
import MessageGen.Text.Numeral

/-!
# Unicode escapes

Before anything else, Java replaces the Unicode escapes of a program: a backslash, one or
more letters `u` and four hexadecimal digits stand for one unit of UTF-16. Only a backslash
with an even number of backslashes right in front of it begins an escape, and an escape that
is begun has to be complete. What a text means is therefore said of the units of UTF-16 that
it is translated to.
-/

namespace MessageGen

namespace Text

/-- The units of UTF-16 for a character: one, or two surrogates beyond the first plane. -/
def unitsOf (character : Char) : List UInt16 :=
  if character.toNat < 0x10000 then [UInt16.ofNat character.toNat]
  else
    [UInt16.ofNat (0xD800 + (character.toNat - 0x10000) / 0x400),
      UInt16.ofNat (0xDC00 + (character.toNat - 0x10000) % 0x400)]

/-- The units of UTF-16 for a text. -/
def units (text : List Char) : List UInt16 :=
  text.flatMap unitsOf

/-- The unit of a character of the first plane. -/
def unit (character : Char) : UInt16 :=
  UInt16.ofNat character.toNat

end Text

open Text

namespace UnicodeEscape

/-- How far the translation of a text has come. -/
inductive Place where
  /-- Outside of escapes, with a number of backslashes right in front. -/
  | outside (backslashes : Nat)
  /-- Inside an escape, with the number of digits to come and the value of the others. -/
  | inside (missing value : Nat)

/-- Translates the rest of a text; there is no translation if an escape is not complete. -/
def translateFrom? : Place → List Char → Option (List UInt16)
  | .outside _, [] => some []
  | .inside _ _, [] => none
  | .outside backslashes, character :: rest =>
    if character = '\\' then
      if backslashes % 2 = 0 ∧ rest.head? = some 'u' then translateFrom? (.inside 4 0) rest
      else (translateFrom? (.outside (backslashes + 1)) rest).map (unitsOf character ++ ·)
    else (translateFrom? (.outside 0) rest).map (unitsOf character ++ ·)
  | .inside missing value, character :: rest =>
    if missing = 4 ∧ character = 'u' then translateFrom? (.inside 4 0) rest
    else
      match hexDigit? character with
      | none => none
      | some digit =>
        if missing = 1 then
          (translateFrom? (.outside 0) rest).map (UInt16.ofNat (16 * value + digit) :: ·)
        else translateFrom? (.inside (missing - 1) (16 * value + digit)) rest

/-- The units that a text is translated to. -/
def translate? (text : List Char) : Option (List UInt16) :=
  translateFrom? (.outside 0) text

example : translate? "\\uu0041\\\\u0041\\\\\\u0041".toList = some (units "A\\\\u0041\\\\A".toList) := by
  decide

example : translate? "\\u41".toList = none := by decide

end UnicodeEscape

namespace Text

variable {character other : Char} {text rest : List Char}

theorem toNat_ofNat_unit {number : Nat} (small : number < 65536) :
    (UInt16.ofNat number).toNat = number := by
  simp [Nat.mod_eq_of_lt small]

@[simp]
theorem units_nil : units [] = [] :=
  rfl

@[simp]
theorem units_cons : units (character :: text) = unitsOf character ++ units text :=
  List.flatMap_cons

@[simp]
theorem units_append : units (text ++ rest) = units text ++ units rest :=
  List.flatMap_append

theorem unitsOf_of_lt (small : character.toNat < 0x10000) : unitsOf character = [unit character] :=
  if_pos small

theorem unitsOf_ne_nil (character : Char) : unitsOf character ≠ [] := by
  unfold unitsOf
  split <;> simp

/-- A unit of the first plane is no surrogate. -/
theorem toNat_char_bounds (character : Char) :
    character.toNat < 0xD800 ∨ 0xDFFF < character.toNat ∧ character.toNat < 0x110000 :=
  character.valid

/-- The units of a character tell it from every other one, whatever follows them. -/
theorem unitsOf_append_inj {after otherAfter : List UInt16}
    (same : unitsOf character ++ after = unitsOf other ++ otherAfter) :
    character = other ∧ after = otherAfter := by
  have bounds := toNat_char_bounds character
  have otherBounds := toNat_char_bounds other
  rw [← Char.toNat_inj]
  simp only [unitsOf] at same
  generalize character.toNat = code at same bounds ⊢
  generalize other.toNat = otherCode at same otherBounds ⊢
  split_ifs at same <;>
    simp (disch := omega) only [List.cons_append, List.nil_append, List.cons.injEq,
      ← UInt16.toNat_inj, toNat_ofNat_unit] at same
  · exact same
  · omega
  · omega
  · rcases same with ⟨high, low, rest⟩
    exact ⟨by omega, rest⟩

theorem units_injective : Function.Injective units := by
  intro first second same
  induction first generalizing second with
  | nil =>
      cases second with
      | nil => rfl
      | cons character second =>
          simp [unitsOf_ne_nil] at same
  | cons character first ih =>
      cases second with
      | nil =>
          simp [unitsOf_ne_nil] at same
      | cons other second =>
          rcases unitsOf_append_inj same with ⟨rfl, sameRest⟩
          rw [ih sameRest]

/-- A character that is no surrogate has its own unit, and no other character has it. -/
theorem unit_mem_unitsOf_iff (isAscii : other.toNat < 0x80) :
    unit other ∈ unitsOf character ↔ character = other := by
  have bounds := toNat_char_bounds character
  rw [unitsOf, unit, ← Char.toNat_inj]
  generalize character.toNat = code at bounds ⊢
  generalize other.toNat = otherCode at isAscii ⊢
  split_ifs <;>
    simp (disch := omega) only [List.mem_cons, List.not_mem_nil, or_false, ← UInt16.toNat_inj,
      toNat_ofNat_unit] <;> omega

theorem head?_units_eq_some_iff (isAscii : other.toNat < 0x80) :
    (units text).head? = some (unit other) ↔ text.head? = some other := by
  cases text with
  | nil => simp
  | cons character text =>
      by_cases same : character = other
      · subst same
        simp [unitsOf_of_lt (show character.toNat < 0x10000 by omega)]
      · have notUnit : unit other ∉ unitsOf character :=
          mt (unit_mem_unitsOf_iff isAscii).mp same
        rcases List.exists_cons_of_ne_nil (unitsOf_ne_nil character) with ⟨first, rest, written⟩
        rw [written, List.mem_cons, not_or] at notUnit
        rw [units_cons, written, List.cons_append, List.head?_cons, List.head?_cons]
        exact iff_of_false (by simpa [eq_comm] using notUnit.1) (by simpa using same)

end Text

namespace UnicodeEscape

variable {character : Char} {text rest : List Char} {backslashes : Nat}

theorem translateFrom?_of_ne_backslash (notBackslash : character ≠ '\\') :
    translateFrom? (.outside backslashes) (character :: rest) =
      (translateFrom? (.outside 0) rest).map (unitsOf character ++ ·) := by
  rw [translateFrom?, if_neg notBackslash]

/-- A backslash that begins no escape is kept. -/
theorem translateFrom?_backslash
    (noEscape : backslashes % 2 = 1 ∨ rest.head? ≠ some 'u') :
    translateFrom? (.outside backslashes) ('\\' :: rest) =
      (translateFrom? (.outside (backslashes + 1)) rest).map (units ['\\'] ++ ·) := by
  have notBegun : ¬(backslashes % 2 = 0 ∧ rest.head? = some 'u') := by
    rintro ⟨isEven, isMark⟩
    rcases noEscape with isOdd | noMark
    · omega
    · exact noMark isMark
  rw [translateFrom?, if_pos rfl, if_neg notBegun]
  rfl

theorem translateFrom?_of_no_mark (noMark : ¬['\\', 'u'] <:+: text) (backslashes : Nat) :
    translateFrom? (.outside backslashes) text = some (units text) := by
  induction text generalizing backslashes with
  | nil => rfl
  | cons character text ih =>
      rw [List.infix_cons_iff, not_or] at noMark
      by_cases isBackslash : character = '\\'
      · subst isBackslash
        have notMark : text.head? ≠ some 'u' := by
          intro isMark
          rcases List.head?_eq_some_iff.mp isMark with ⟨rest, rfl⟩
          exact noMark.1 ⟨rest, rfl⟩
        rw [translateFrom?_backslash (.inr notMark), ih noMark.2]
        simp
      · rw [translateFrom?_of_ne_backslash isBackslash, ih noMark.2]
        simp

theorem translate?_append_of_plain (plain : '\\' ∉ text) (rest : List Char) :
    translate? (text ++ rest) = (translate? rest).map (units text ++ ·) := by
  induction text with
  | nil => simp
  | cons character text ih =>
      rw [List.mem_cons, not_or] at plain
      rw [List.cons_append, translate?, translateFrom?_of_ne_backslash (Ne.symm plain.1),
        ← translate?, ih plain.2]
      simp [Function.comp_def]

theorem translateFrom?_append_lineFeed (place : Place) (text rest : List Char) :
    translateFrom? place (text ++ '\n' :: rest) =
      (translateFrom? place text).bind fun line =>
        (translate? rest).map (line ++ unit '\n' :: ·) := by
  induction text generalizing place with
  | nil =>
      cases place with
      | outside backslashes =>
          rw [List.nil_append, translateFrom?_of_ne_backslash (by decide)]
          rfl
      | inside missing value => simp [translateFrom?, hexDigit?]
  | cons character text ih =>
      have sameMark : (text ++ '\n' :: rest).head? = some 'u' ↔ text.head? = some 'u' := by
        cases text <;> simp
      cases place with
      | outside backslashes =>
          rw [List.cons_append, translateFrom?, translateFrom?]
          simp only [sameMark]
          split_ifs <;> simp [ih, Option.map_bind, Option.bind_map, Function.comp_def]
      | inside missing value =>
          rw [List.cons_append, translateFrom?, translateFrom?]
          cases hexDigit? character with
          | none => split_ifs <;> simp [ih]
          | some digit =>
              simp only
              split_ifs <;> simp [ih, Option.map_bind, Option.bind_map, Function.comp_def]

theorem translate?_append_lineFeed (text rest : List Char) :
    translate? (text ++ '\n' :: rest) =
      (translate? text).bind fun line => (translate? rest).map (line ++ unit '\n' :: ·) :=
  translateFrom?_append_lineFeed _ text rest

end UnicodeEscape

end MessageGen
