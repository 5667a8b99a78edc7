import Mathlib.Data.Option.Basic
import MessageGen.Class.Source
import MessageGen.Proofs.Class.UnicodeEscapes

/-!
# Documentation comments

Documentation is written between `/**` and `*/`, and every end of a comment inside it is
taken apart. Java looks for the end of a comment only after it has replaced the Unicode
escapes, so an escape in the documentation can bring in an end of its own, and one that is
not complete is an error even in a comment. These are the only ways out: all other
documentation stays in its comment.
-/

namespace MessageGen

open Text UnicodeEscape

/-- How often one symbol stands right in front of another one. -/
def Text.pairCount {α : Type} [DecidableEq α] (left right : α) : List α → Nat
  | [] => 0
  | first :: rest =>
    (if first = left ∧ rest.head? = some right then 1 else 0) + pairCount left right rest

namespace DocumentationComment

/-- How often a comment would end in a translated text. -/
def endCount (source : List UInt16) : Nat :=
  pairCount (unit '*') (unit '/') source

/-- The text of a documentation comment. -/
def commentText (indentation : String) (docs : List String) : String :=
  String.join ((docLines indentation docs).map (· ++ "\n"))

/-- Whether a text is read as an indentation, one documentation comment and a line feed. -/
def IsOneComment (indentation text : String) : Prop :=
  ∃ source content, translate? text.toList = some source ∧
    source = units indentation.toList ++ units "/**".toList ++ content ++ units "*/\n".toList ∧
    endCount source = 1

/-- Whether all Unicode escapes of a text are complete and none brings in an end of a comment. -/
def EscapesNoEnd (text : List Char) : Prop :=
  ∃ source, translate? text = some source ∧ endCount source = pairCount '*' '/' text

section Counting

theorem endCount_append (first others : List UInt16) :
    endCount (first ++ others) = endCount first + endCount others +
      if first.getLast? = some (unit '*') ∧ others.head? = some (unit '/') then 1 else 0 := by
  induction first with
  | nil => simp [endCount, pairCount]
  | cons head first ih =>
      simp only [endCount] at ih
      cases first with
      | nil => simp [endCount, pairCount, Nat.add_comm]
      | cons next first =>
        simp only [endCount, List.cons_append] at ih ⊢
        rw [pairCount, ih]
        conv_rhs => rw [pairCount]
        simp
        omega

/-- A text of which a translation is known, and the same text with its ends taken apart. -/
structure TakesApart (ends : Nat) (hidden source : List UInt16) : Prop where
  sameHead : hidden.head? = source.head?
  endCount : endCount hidden + ends = endCount source

theorem TakesApart.append {ends : Nat} {hidden source : List UInt16}
    (takesApart : TakesApart ends hidden source) (first : List UInt16) :
    TakesApart ends (first ++ hidden) (first ++ source) := by
  refine ⟨?_, ?_⟩
  · rw [List.head?_append, List.head?_append, takesApart.sameHead]
  · have count := takesApart.endCount
    rw [endCount_append, endCount_append, takesApart.sameHead]
    omega

theorem TakesApart.terminator {ends : Nat} {hidden source : List UInt16}
    (takesApart : TakesApart ends hidden source) :
    TakesApart (ends + 1) (units "*&#47;".toList ++ hidden) (units "*/".toList ++ source) := by
  have count := takesApart.endCount
  have noEnd : DocumentationComment.endCount (units "*&#47;".toList) = 0 ∧
      (units "*&#47;".toList).getLast? ≠ some (unit '*') := by decide
  have oneEnd : DocumentationComment.endCount (units "*/".toList) = 1 ∧
      (units "*/".toList).getLast? ≠ some (unit '*') := by decide
  refine ⟨rfl, ?_⟩
  rw [endCount_append, endCount_append]
  simp only [noEnd, oneEnd, false_and, if_false]
  omega

theorem rel_map {α : Type} {related relatedNext : α → α → Prop} {left right : Option α}
    {leftNext rightNext : α → α} (holds : Option.Rel related left right)
    (next : ∀ leftValue rightValue, related leftValue rightValue →
      relatedNext (leftNext leftValue) (rightNext rightValue)) :
    Option.Rel relatedNext (left.map leftNext) (right.map rightNext) := by
  cases holds with
  | none => exact .none
  | some values => exact .some (next _ _ values)

end Counting

section Hiding

variable {character : Char} {text rest : List Char}

theorem head?_hideCommentEnds (text : List Char) :
    (hideCommentEnds text).head? = text.head? := by
  unfold hideCommentEnds
  split <;> rfl

theorem pairCount_of_apart (apart : ∀ others, character = '*' → rest = '/' :: others → False) :
    pairCount '*' '/' (character :: rest) = pairCount '*' '/' rest := by
  have noEnd : ¬(character = '*' ∧ rest.head? = some '/') := by
    rintro ⟨isStar, isSlash⟩
    rcases List.head?_eq_some_iff.mp isSlash with ⟨others, written⟩
    exact apart others isStar written
  rw [pairCount, if_neg noEnd, Nat.zero_add]

/--
Taking the ends apart keeps what becomes of the Unicode escapes of a text, and removes just
the ends that the text itself has. The induction is on the text, with any part of an escape
in front of it.
-/
theorem rel_translateFrom?_hideCommentEnds (place : Place) (text : List Char) :
    Option.Rel (TakesApart (pairCount '*' '/' text))
      (translateFrom? place (hideCommentEnds text)) (translateFrom? place text) := by
  induction text using hideCommentEnds.induct generalizing place with
  | case1 rest ih =>
      cases place with
      | outside backslashes =>
          have related := ih (.outside 0)
          have ends : pairCount '*' '/' ('*' :: '/' :: rest) = pairCount '*' '/' rest + 1 := by
            simp [pairCount, Nat.add_comm]
          simp only [hideCommentEnds, List.cons_append, List.nil_append, ends]
          simp only [translateFrom?_of_ne_backslash, ne_eq, Char.reduceEq, not_false_eq_true,
            Option.map_map]
          exact rel_map related fun _ _ takesApart => takesApart.terminator
      | inside missing value => simp [hideCommentEnds, translateFrom?, hexDigit?]
  | case2 character rest apart ih =>
      rw [pairCount_of_apart apart, hideCommentEnds]
      · cases place with
        | outside backslashes =>
            rw [translateFrom?, translateFrom?, head?_hideCommentEnds]
            split
            · split
              · exact ih _
              · exact rel_map (ih _) fun _ _ takesApart => takesApart.append _
            · exact rel_map (ih _) fun _ _ takesApart => takesApart.append _
        | inside missing value =>
            rw [translateFrom?, translateFrom?]
            split
            · exact ih _
            · cases hexDigit? character with
              | none => exact .none
              | some digit =>
                  simp only
                  split
                  · exact rel_map (ih _) fun _ _ takesApart => takesApart.append [_]
                  · exact ih _
      · exact apart
  | case3 =>
      cases place with
      | outside backslashes => exact .some ⟨rfl, rfl⟩
      | inside missing value => exact .none

/-- The ends that are left are those that come from the Unicode escapes. -/
theorem escapesNoEnd_iff : EscapesNoEnd text ↔
    ∃ source, translate? (hideCommentEnds text) = some source ∧ endCount source = 0 := by
  have related := rel_translateFrom?_hideCommentEnds (.outside 0) text
  unfold EscapesNoEnd translate?
  generalize translateFrom? (.outside 0) (hideCommentEnds text) = hidden at related ⊢
  generalize translateFrom? (.outside 0) text = source at related ⊢
  cases related with
  | none => simp
  | some takesApart =>
      have count := takesApart.endCount
      simp
      omega

end Hiding

section Lines

variable {indentation : String} {docs : List String}

/-- Whether a text is what stands in front of the documentation of classes or members. -/
def IsIndentation (indentation : String) : Prop :=
  indentation = "" ∨ indentation = indent

theorem exists_docLine_eq (isIndentation : IsIndentation indentation) (doc : String) :
    ∃ marker, (docLine indentation doc).toList = marker ++ hideCommentEnds doc.toList ∧
      '\\' ∉ marker ∧ endCount (units marker) = 0 ∧
      ((units marker).getLast? = some (unit '*') → doc = "") := by
  by_cases isEmpty : doc = ""
  · subst isEmpty
    refine ⟨indentation.toList ++ " *".toList, by simp [docLine, hideCommentEnds], ?_⟩
    rcases isIndentation with rfl | rfl <;> decide
  · refine ⟨indentation.toList ++ " * ".toList, by simp [docLine, isEmpty], ?_⟩
    rcases isIndentation with rfl | rfl <;> simp [isEmpty] <;> decide

/-- What a line of documentation is translated to, and how many ends it has. -/
theorem translate?_docLine_append (isIndentation : IsIndentation indentation) (doc : String) :
    ∃ before, ∀ rest,
      translate? ((docLine indentation doc).toList ++ '\n' :: rest) =
        ((translate? (hideCommentEnds doc.toList)).bind fun line =>
          (translate? rest).map (before ++ line ++ unit '\n' :: ·)) ∧
      ∀ line ∈ translate? (hideCommentEnds doc.toList), ∀ source,
        endCount (before ++ line ++ unit '\n' :: source) = endCount line + endCount source := by
  rcases exists_docLine_eq isIndentation doc with ⟨marker, written, plain, noEnds, onlyEmpty⟩
  refine ⟨units marker, ?_⟩
  intro rest
  constructor
  · rw [written, List.append_assoc, translate?_append_of_plain plain, translate?_append_lineFeed,
      Option.map_bind]
    simp [Function.comp_def]
  · intro line translated source
    have notSlash : ¬((units marker).getLast? = some (unit '*') ∧
        line.head? = some (unit '/')) := by
      rintro ⟨isStar, isSlash⟩
      rw [onlyEmpty isStar] at translated
      cases translated
      cases isSlash
    have lineFeed : unit '\n' ≠ unit '*' ∧ unit '\n' ≠ unit '/' := by decide
    have lineEnds : endCount (unit '\n' :: source) = endCount source := by
      simp [endCount, pairCount, lineFeed]
    rw [endCount_append, endCount_append, if_neg notSlash, lineEnds, noEnds]
    simp [lineFeed]

/-- The lines of documentation and the end of the comment. -/
def remainder (indentation : String) (docs : List String) : List Char :=
  docs.flatMap (fun doc => (docLine indentation doc).toList ++ ['\n']) ++
    (indentation ++ " */\n").toList

theorem exists_translate?_remainder_nil (isIndentation : IsIndentation indentation) :
    ∃ before, translate? (remainder indentation []) = some (before ++ units "*/\n".toList) ∧
      endCount (before ++ units "*/\n".toList) = 1 := by
  refine ⟨units (indentation ++ " ").toList, ?_⟩
  rcases isIndentation with rfl | rfl <;> decide

theorem toList_commentText (nonempty : docs ≠ []) : (commentText indentation docs).toList =
    (indentation ++ "/**\n").toList ++ remainder indentation docs := by
  simp [commentText, docLines, remainder, nonempty, List.flatMap_map]

end Lines

section Comments

variable {indentation : String} {docs : List String} {source : List UInt16}

theorem remainder_cons (doc : String) (docs : List String) : remainder indentation (doc :: docs) =
    (docLine indentation doc).toList ++ '\n' :: remainder indentation docs := by
  simp [remainder]

/-- The end of the comment stands at its end, whatever was written in front. -/
theorem exists_of_translate?_remainder (isIndentation : IsIndentation indentation)
    (translated : translate? (remainder indentation docs) = some source) :
    (∃ before, source = before ++ units "*/\n".toList) ∧ 1 ≤ endCount source := by
  induction docs generalizing source with
  | nil =>
      rcases exists_translate?_remainder_nil isIndentation with ⟨before, isTranslation, oneEnd⟩
      rw [isTranslation, Option.some.injEq] at translated
      subst translated
      exact ⟨⟨before, rfl⟩, by omega⟩
  | cons doc docs ih =>
      rcases translate?_docLine_append isIndentation doc with ⟨before, isLine⟩
      rcases isLine (remainder indentation docs) with ⟨translation, count⟩
      rw [remainder_cons, translation] at translated
      simp only [Option.bind_eq_some_iff, Option.map_eq_some_iff] at translated
      rcases translated with ⟨line, ofLine, others, ofOthers, rfl⟩
      rcases ih ofOthers with ⟨⟨middle, rfl⟩, hasEnd⟩
      refine ⟨⟨before ++ line ++ unit '\n' :: middle, by simp⟩, ?_⟩
      rw [count line ofLine]
      omega

theorem exists_translate?_remainder_iff (isIndentation : IsIndentation indentation) :
    (∃ source, translate? (remainder indentation docs) = some source ∧ endCount source = 1) ↔
      ∀ doc ∈ docs, EscapesNoEnd doc.toList := by
  induction docs with
  | nil =>
      rcases exists_translate?_remainder_nil isIndentation with ⟨before, isTranslation, oneEnd⟩
      exact iff_of_true ⟨_, isTranslation, oneEnd⟩ (by simp)
  | cons doc docs ih =>
      rcases translate?_docLine_append isIndentation doc with ⟨before, isLine⟩
      rcases isLine (remainder indentation docs) with ⟨translation, count⟩
      rw [List.forall_mem_cons, ← ih, escapesNoEnd_iff, remainder_cons, translation]
      simp only [Option.bind_eq_some_iff, Option.map_eq_some_iff]
      constructor
      · rintro ⟨_, ⟨line, ofLine, others, ofOthers, rfl⟩, oneEnd⟩
        have hasEnd := (exists_of_translate?_remainder isIndentation ofOthers).2
        rw [count line ofLine] at oneEnd
        exact ⟨⟨line, ofLine, by omega⟩, others, ofOthers, by omega⟩
      · rintro ⟨⟨line, ofLine, noEnd⟩, others, ofOthers, oneEnd⟩
        refine ⟨_, ⟨line, ofLine, others, ofOthers, rfl⟩, ?_⟩
        rw [count line ofLine, noEnd, oneEnd]

theorem translate?_opening_append (isIndentation : IsIndentation indentation) (rest : List Char) :
    translate? ((indentation ++ "/**\n").toList ++ rest) =
      (translate? rest).map (units (indentation ++ "/**\n").toList ++ ·) := by
  apply translate?_append_of_plain
  rcases isIndentation with rfl | rfl <;> decide

theorem endCount_opening_append (isIndentation : IsIndentation indentation) :
    endCount (units (indentation ++ "/**\n").toList ++ source) = endCount source := by
  have noEnd : endCount (units (indentation ++ "/**\n").toList) = 0 ∧
      (units (indentation ++ "/**\n").toList).getLast? ≠ some (unit '*') := by
    rcases isIndentation with rfl | rfl <;> decide
  rw [endCount_append, noEnd.1, if_neg fun isEnd => noEnd.2 isEnd.1, Nat.zero_add, Nat.add_zero]

theorem isOneComment_iff (isIndentation : IsIndentation indentation) (nonempty : docs ≠ []) :
    IsOneComment indentation (commentText indentation docs) ↔
      ∀ doc ∈ docs, EscapesNoEnd doc.toList := by
  rw [← exists_translate?_remainder_iff isIndentation, IsOneComment, toList_commentText nonempty,
    translate?_opening_append isIndentation]
  simp only [Option.map_eq_some_iff]
  constructor
  · rintro ⟨_, content, ⟨source, translated, rfl⟩, -, oneEnd⟩
    rw [endCount_opening_append isIndentation] at oneEnd
    exact ⟨source, translated, oneEnd⟩
  · rintro ⟨source, translated, oneEnd⟩
    rcases (exists_of_translate?_remainder isIndentation translated).1 with ⟨before, rfl⟩
    refine ⟨_, unit '\n' :: before, ⟨_, translated, rfl⟩, ?_, ?_⟩
    · simp
      rfl
    · rw [endCount_opening_append isIndentation, oneEnd]

end Comments

section Plain

variable {text : List Char}

theorem endCount_append_of_not_mem {first others : List UInt16} (noStar : unit '*' ∉ first) :
    endCount (first ++ others) = endCount others := by
  induction first with
  | nil => rfl
  | cons head first ih =>
      rw [List.mem_cons, not_or] at noStar
      have rest := ih noStar.2
      simp_all [endCount, pairCount, eq_comm]

theorem endCount_units (text : List Char) : endCount (units text) = pairCount '*' '/' text := by
  induction text with
  | nil => rfl
  | cons character text ih =>
      rw [units_cons, pairCount, ← ih]
      by_cases isStar : character = '*'
      · subst isStar
        rw [unitsOf_of_lt (by decide), List.singleton_append, endCount, pairCount]
        simp only [head?_units_eq_some_iff (show '/'.toNat < 0x80 by decide)]
        rfl
      · rw [endCount_append_of_not_mem (mt (unit_mem_unitsOf_iff (by decide)).mp isStar)]
        simp [isStar]

/-- Without a backslash in front of a `u` there is no escape, whatever else a text holds. -/
theorem escapesNoEnd_of_no_mark (noMark : ¬['\\', 'u'] <:+: text) : EscapesNoEnd text :=
  ⟨units text, translateFrom?_of_no_mark noMark 0, endCount_units text⟩

end Plain

/--
Documentation of classes and members is read as one comment exactly if all its Unicode
escapes are complete and none of them brings in an end of the comment. So whatever has no
backslash in front of a `u` stays in its comment.
-/
theorem docs_one_comment_iff {indentation : String} (isIndentation : IsIndentation indentation)
    {docs : List String} (nonempty : docs ≠ []) :
    (IsOneComment indentation (commentText indentation docs) ↔
      ∀ doc ∈ docs, EscapesNoEnd doc.toList) ∧
    ((∀ doc ∈ docs, ¬['\\', 'u'] <:+: doc.toList) →
      IsOneComment indentation (commentText indentation docs)) := by
  have exact := isOneComment_iff isIndentation nonempty
  refine ⟨exact, ?_⟩
  intro noMarks
  exact exact.mpr fun doc doc_mem => escapesNoEnd_of_no_mark (noMarks doc doc_mem)

/-- Ends that overlap, a slash at the start, a line break and backslashes. -/
theorem docs_one_comment_overlapping : IsIndentation indent ∧
    ["**//", "/a*\n/", "", "\\*/\\"] ≠ [] ∧
    IsOneComment indent (commentText indent ["**//", "/a*\n/", "", "\\*/\\"]) := by
  have isIndentation : IsIndentation indent := .inr rfl
  have nonempty : ["**//", "/a*\n/", "", "\\*/\\"] ≠ [] := by simp
  have oneComment := docs_one_comment_iff isIndentation nonempty
  refine ⟨isIndentation, nonempty, oneComment.2 ?_⟩
  decide

/-- The slash of an escape ends the comment, so not all documentation stays in its comment. -/
theorem docs_not_one_comment_slash : ¬∀ (indentation : String) (docs : List String),
    IsIndentation indentation → docs ≠ [] →
      IsOneComment indentation (commentText indentation docs) := by
  intro allOneComment
  have oneComment := allOneComment indent ["Ends *\\u002f early."] (.inr rfl) (by simp)
  rw [isOneComment_iff (.inr rfl) (by simp), List.forall_mem_singleton] at oneComment
  rcases oneComment with ⟨source, translated, count⟩
  have isSource : translate? "Ends *\\u002f early.".toList =
      some (units "Ends */ early.".toList) := by decide
  rw [isSource, Option.some.injEq] at translated
  subst translated
  exact absurd count (by decide)

end DocumentationComment

end MessageGen
