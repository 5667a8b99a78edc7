import Mathlib.Data.List.Forall2
import MessageGen.Proofs.Schema.LineLiterals
import MessageGen.Proofs.Text.Bytes
import MessageGen.Proofs.Text.Lines

/-!
# The search for comments along bytes

A comment can be searched for along the bytes of a line as well as along its characters.
The search looks for characters of ASCII only, and their bytes stand nowhere inside of
other characters. So it stops between two characters, at the same place, and what it cuts
off every line is the comment.
-/

namespace MessageGen

open Text

/--
The length of the front of a line that a scan along its bytes passes before it meets a
comment. The scan knows whether it is in a string, and there whether the byte is escaped.
-/
def commentOffset (inString escaped : Bool) : List UInt8 → Nat
  | [] => 0
  | byte :: rest =>
    if inString then
      if escaped then commentOffset inString false rest + 1
      else if byte = 0x5C then commentOffset inString true rest + 1
      else if byte = 0x22 then commentOffset false escaped rest + 1
      else commentOffset inString escaped rest + 1
    else if byte = 0x22 then commentOffset true escaped rest + 1
    else if byte = 0x2F ∧ rest.head? = some 0x2F then 0
    else commentOffset inString escaped rest + 1

/-- The front of a text up to an offset in bytes, which has to be a boundary of characters. -/
def Text.sliceTo? (text : String) (offset : Nat) : Option String :=
  if boundary : (String.Pos.Raw.mk offset).IsValid text then
    some (text.sliceTo (text.pos ⟨offset⟩ boundary)).copy
  else none

/--
Removes the comment of every line by a scan along its bytes. This fails if a line would be
cut inside a character.
-/
def stripBytewise? (text : String) : Option String := do
  let kept ← (stringLines text).mapM fun line =>
    sliceTo? line (commentOffset false false (bytes line))
  return String.join (kept.map (· ++ "\n"))

variable {front rest : List UInt8}

theorem byte_ne_of_high {byte other : UInt8} (isHigh : 128 ≤ byte.toNat)
    (isLow : other.toNat < 128) : byte ≠ other := by
  rintro rfl
  omega

/-- Bytes outside of ASCII are passed over. -/
theorem commentOffset_append_of_high {inString : Bool}
    (areHigh : ∀ byte ∈ front, 128 ≤ byte.toNat) :
    commentOffset inString false (front ++ rest) =
      front.length + commentOffset inString false rest := by
  induction front with
  | nil => simp
  | cons byte front ih =>
      rcases List.forall_mem_cons.mp areHigh with ⟨isHigh, laterHigh⟩
      have notBackslash : byte ≠ 0x5C := byte_ne_of_high isHigh (by decide)
      have notQuote : byte ≠ 0x22 := byte_ne_of_high isHigh (by decide)
      have notSlash : byte ≠ 0x2F := byte_ne_of_high isHigh (by decide)
      cases inString <;>
        simp [commentOffset, notBackslash, notQuote, notSlash, ih laterHigh, Nat.add_right_comm]

namespace LineState

variable {state : LineState} {character : Char}

/-- The scan along bytes, from a state of the scan along characters. -/
def byteOffset (state : LineState) (bytes : List UInt8) : Nat :=
  match state with
  | .outside => commentOffset false false bytes
  | .inString => commentOffset true false bytes
  | .escaped => commentOffset true true bytes

/-- The bytes of a character move the scan as the character does. -/
theorem byteOffset_append
    (noComment : state = .outside → character = '/' → rest.head? ≠ some 0x2F) :
    state.byteOffset (String.utf8EncodeChar character ++ rest) =
      (String.utf8EncodeChar character).length + (state.next character).byteOffset rest := by
  by_cases isAscii : character.toNat < 128
  · have quote : UInt8.ofNat character.toNat = 0x22 ↔ character = '"' :=
      ofNat_toNat_eq_iff isAscii '"' (by decide)
    have backslash : UInt8.ofNat character.toNat = 0x5C ↔ character = '\\' :=
      ofNat_toNat_eq_iff isAscii '\\' (by decide)
    have slash : UInt8.ofNat character.toNat = 0x2F ↔ character = '/' :=
      ofNat_toNat_eq_iff isAscii '/' (by decide)
    rw [utf8EncodeChar_of_ascii isAscii, List.singleton_append, List.length_singleton]
    cases state with
    | outside =>
        by_cases isQuote : character = '"'
        · simp [byteOffset, commentOffset, next, isQuote, Nat.add_comm]
        · have notComment : ¬(character = '/' ∧ rest.head? = some 0x2F) :=
            fun both => noComment rfl both.1 both.2
          simp only [byteOffset, commentOffset, next, quote, slash, isQuote, notComment]
          simp [Nat.add_comm]
    | inString =>
        by_cases isBackslash : character = '\\'
        · simp [byteOffset, commentOffset, next, isBackslash, Nat.add_comm]
        · by_cases isQuote : character = '"' <;>
            simp [byteOffset, commentOffset, next, backslash, quote, isBackslash, isQuote,
              Nat.add_comm]
    | escaped => simp [byteOffset, commentOffset, next, Nat.add_comm]
  · have areHigh := le_of_mem_utf8EncodeChar (Nat.le_of_not_lt isAscii)
    have notQuote : character ≠ '"' := by
      rintro rfl
      exact isAscii (by decide)
    have notBackslash : character ≠ '\\' := by
      rintro rfl
      exact isAscii (by decide)
    cases state with
    | outside => simp [byteOffset, next, notQuote, commentOffset_append_of_high areHigh]
    | inString =>
        simp [byteOffset, next, notQuote, notBackslash, commentOffset_append_of_high areHigh]
    | escaped =>
        -- The first byte of the character is the escaped one.
        rcases List.exists_cons_of_ne_nil (String.utf8EncodeChar_ne_nil (c := character)) with
          ⟨byte, later, encoded⟩
        rw [encoded] at areHigh ⊢
        simp [byteOffset, commentOffset, next,
          commentOffset_append_of_high (List.forall_mem_cons.mp areHigh).2, Nat.add_right_comm]

/-- The scan along bytes stops where the scan along characters does. -/
theorem byteOffset_eq_length (state : LineState) (line : List Char) :
    state.byteOffset (line.flatMap String.utf8EncodeChar) =
      ((beforeComment state line).flatMap String.utf8EncodeChar).length := by
  fun_induction beforeComment state line with
  | case1 state => cases state <;> rfl
  | case2 comment => rfl
  | case3 state character rest noComment ih =>
      rw [List.flatMap_cons, byteOffset_append, ih, List.flatMap_cons, List.length_append]
      intro isOutside isSlash nextSlash
      rcases head?_flatMap_utf8EncodeChar '/' (by decide) nextSlash with
        ⟨comment, isComment⟩
      exact noComment comment isOutside isSlash isComment

end LineState

theorem Text.sliceTo?_append (front back : String) :
    sliceTo? (front ++ back) front.utf8ByteSize = some front := by
  have boundary : (String.Pos.Raw.mk front.utf8ByteSize).IsValid (front ++ back) :=
    String.Pos.Raw.isValid_iff_exists_append.mpr ⟨front, back, rfl, rfl⟩
  rw [sliceTo?, dif_pos boundary, Option.some_inj, ← String.toByteArray_inj]
  simp [String.copy_toByteArray_sliceTo, ByteArray.extract_append_eq_left]

theorem sliceTo?_commentOffset (line : String) :
    sliceTo? line (commentOffset false false (bytes line)) =
      some (String.ofList (beforeComment .outside line.toList)) := by
  have offset : commentOffset false false (bytes line) =
      (String.ofList (beforeComment .outside line.toList)).utf8ByteSize := by
    rw [bytes_eq, ← length_flatMap_utf8EncodeChar]
    exact LineState.byteOffset_eq_length .outside line.toList
  rcases (cutAtFirst_startsComment line.toList).isPrefix with ⟨comment, joined⟩
  have isLine : line = String.ofList (beforeComment .outside line.toList) ++
      String.ofList comment := by
    rw [← String.ofList_append, joined, String.ofList_toList]
  rw [offset]
  conv_lhs => arg 1; rw [isLine]
  exact sliceTo?_append _ _

theorem stripBytewise?_eq_some (text : String) :
    stripBytewise? text = some (stripLineComments text) := by
  have kept : ((stringLines text).mapM fun line =>
      sliceTo? line (commentOffset false false (bytes line))) =
        some ((stringLines text).map fun line =>
          String.ofList (beforeComment .outside line.toList)) := by
    simp only [sliceTo?_commentOffset]
    exact List.mapM_pure
  simp only [stripBytewise?, kept, Option.bind_eq_bind, Option.bind_some, Option.pure_def,
    Option.some_inj, ← String.toList_inj]
  simp [stripLineComments, stripComments, stringLines, List.flatMap_map, Function.comp_def]

open TerminatedLine in
/--
Of every line just the front stays that ends where the first comment starts, and a line
feed ends it. A scan along the bytes of the lines gives the same, and never has to cut a
line inside a character.
-/
theorem stripLineComments_cuts_comments (text : String) :
    (∃ (lines : List TerminatedLine) (kept : List (List Char)),
      AreLines lines text.toList ∧
      List.Forall₂ (fun line front => '\n' ∉ front ∧
        CutAtFirst (StartsComment line.content) line.content front) lines kept ∧
      (stripLineComments text).toList = kept.flatMap (· ++ ['\n'])) ∧
    stripBytewise? text = some (stripLineComments text) := by
  have areLines := areLines_terminatedLines text.toList
  refine ⟨⟨terminatedLines text.toList,
    (terminatedLines text.toList).map (beforeComment .outside ·.content), areLines, ?_, ?_⟩,
    stripBytewise?_eq_some text⟩
  · rw [List.forall₂_map_right_iff, List.forall₂_same]
    intro line line_mem
    have cut := cutAtFirst_startsComment line.content
    exact ⟨fun lineFeed_mem =>
      areLines.lineFeed_not_mem line line_mem (cut.isPrefix.subset lineFeed_mem), cut⟩
  · rw [stripLineComments, String.toList_ofList, stripComments, ← map_content_terminatedLines]
    simp only [List.flatMap_map]

end MessageGen
