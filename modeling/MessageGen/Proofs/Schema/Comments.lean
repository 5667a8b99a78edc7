import MessageGen.Proofs.Text.Lines
import MessageGen.Schema.Comment

/-!
# Texts without comments

A scan along a text is quiet if it meets no slash outside of strings and no line feed
inside one. The comment remover then finds nothing to remove on any line of the text,
and it removes exactly what is appended to a line as a comment.
-/

namespace MessageGen

open Text

namespace LineState

/-- Whether a character can follow in a text that has no comments. -/
def IsQuiet (state : LineState) (character : Char) : Prop :=
  match state with
  | .outside => character ≠ '/'
  | .inString | .escaped => character ≠ '\n'

/--
A quiet scan gets from the front of a text to the rest of it, and from one state to
another.
-/
inductive Passes : LineState → List Char → LineState → List Char → Prop where
  | refl (state : LineState) (text : List Char) : Passes state text state text
  | step {state last : LineState} {character : Char} {text rest : List Char}
      (quiet : state.IsQuiet character) (after : Passes (state.next character) text last rest) :
      Passes state (character :: text) last rest

namespace Passes

variable {state middle last : LineState} {text rest before : List Char}

theorem trans {between : List Char} (first : Passes state text middle between)
    (second : Passes middle between last rest) : Passes state text last rest := by
  induction first with
  | refl => exact second
  | step quiet after ih => exact .step quiet (ih second)

theorem outside {character : Char} (notSlash : character ≠ '/') (notQuote : character ≠ '"')
    (after : Passes .outside text last rest) : Passes .outside (character :: text) last rest := by
  have quiet : IsQuiet .outside character := notSlash
  apply Passes.step quiet
  simpa [next, notQuote] using after

theorem openQuote (after : Passes .inString text last rest) :
    Passes .outside ('"' :: text) last rest :=
  .step (by simp [IsQuiet]) after

theorem inString {character : Char} (notLineFeed : character ≠ '\n') (notQuote : character ≠ '"')
    (notBackslash : character ≠ '\\') (after : Passes .inString text last rest) :
    Passes .inString (character :: text) last rest := by
  have quiet : IsQuiet .inString character := notLineFeed
  apply Passes.step quiet
  simpa [next, notQuote, notBackslash] using after

theorem closeQuote (after : Passes .outside text last rest) :
    Passes .inString ('"' :: text) last rest :=
  .step (by simp [IsQuiet]) after

theorem backslash (after : Passes .escaped text last rest) :
    Passes .inString ('\\' :: text) last rest :=
  .step (by simp [IsQuiet]) after

theorem escaped {character : Char} (notLineFeed : character ≠ '\n')
    (after : Passes .inString text last rest) : Passes .escaped (character :: text) last rest :=
  .step notLineFeed after

theorem dropWhile {plain : Char → Bool} (noSlash : plain '/' = false) (noQuote : plain '"' = false)
    (text : List Char) : Passes .outside text .outside (text.dropWhile plain) := by
  induction text with
  | nil => exact .refl _ _
  | cons character text ih =>
      by_cases isPlain : plain character = true
      · rw [List.dropWhile_cons_of_pos isPlain]
        apply outside _ _ ih
        · rintro rfl
          simp [noSlash] at isPlain
        · rintro rfl
          simp [noQuote] at isPlain
      · rw [List.dropWhile_cons_of_neg isPlain]
        exact .refl _ _

theorem exists_of_append (passes : Passes state (before ++ text) last []) :
    ∃ middle, Passes state before middle [] ∧ Passes middle text last [] := by
  induction before generalizing state with
  | nil => exact ⟨state, .refl _ _, passes⟩
  | cons character before ih =>
      cases passes with
      | step quiet after =>
          rcases ih after with ⟨middle, first, second⟩
          exact ⟨middle, .step quiet first, second⟩

/-- A line feed can only stand between strings. -/
theorem split_at_lineFeed (passes : Passes .outside (before ++ '\n' :: text) .outside []) :
    Passes .outside before .outside [] ∧ Passes .outside text .outside [] := by
  rcases passes.exists_of_append with ⟨middle, first, second⟩
  cases second with
  | step quiet after =>
      cases middle with
      | outside => exact ⟨first, after⟩
      | inString => exact absurd rfl quiet
      | escaped => exact absurd rfl quiet

theorem split_at_carriageReturn (passes : Passes .outside (before ++ ['\r']) .outside []) :
    Passes .outside before .outside [] := by
  rcases passes.exists_of_append with ⟨middle, first, second⟩
  cases second with
  | step quiet after =>
      cases middle with
      | outside => exact first
      | inString => cases after
      | escaped => cases after

theorem dropCarriageReturn (passes : Passes .outside text .outside []) :
    Passes .outside (dropCarriageReturn text) .outside [] := by
  unfold Text.dropCarriageReturn
  split
  · rename_i isReturn
    rcases List.getLast?_eq_some_iff.mp isReturn with ⟨before, rfl⟩
    simpa using passes.split_at_carriageReturn
  · exact passes

end Passes

section BeforeComment

variable {state last : LineState} {character : Char} {text comment : List Char}

theorem beforeComment_cons (quiet : state.IsQuiet character) :
    beforeComment state (character :: text) =
      character :: beforeComment (state.next character) text := by
  cases state with
  | outside =>
      have notSlash : character ≠ '/' := quiet
      simp [beforeComment, notSlash]
  | inString => simp [beforeComment]
  | escaped => simp [beforeComment]

theorem beforeComment_append (passes : Passes state text .outside []) :
    beforeComment state (text ++ '/' :: '/' :: comment) = text := by
  induction text generalizing state with
  | nil =>
      cases passes
      rfl
  | cons character text ih =>
      cases passes with
      | step quiet after => rw [List.cons_append, beforeComment_cons quiet, ih after]

theorem beforeComment_eq_self (passes : Passes state text last []) :
    beforeComment state text = text := by
  induction text generalizing state with
  | nil => rfl
  | cons character text ih =>
      cases passes with
      | step quiet after => rw [beforeComment_cons quiet, ih after]

end BeforeComment

end LineState

open LineState TerminatedLine

variable {text piece rest line : List Char}

@[simp]
theorem stripComments_nil : stripComments [] = [] :=
  rfl

theorem stripComments_append_lineFeed (noLineFeed : '\n' ∉ piece) :
    stripComments (piece ++ '\n' :: rest) =
      beforeComment .outside (dropCarriageReturn piece) ++ '\n' :: stripComments rest := by
  simp [stripComments, lines_append_lineFeed noLineFeed]

theorem stripComments_of_not_mem (nonempty : line ≠ []) (noLineFeed : '\n' ∉ line) :
    stripComments line = beforeComment .outside line ++ ['\n'] := by
  simp [stripComments, lines_of_not_mem nonempty noLineFeed]

/-- Nothing but the ends of lines changes in a text without comments. -/
theorem stripComments_of_passes (passes : Passes .outside text .outside []) (nonempty : text ≠ []) :
    stripComments text = finishLine (withLineFeeds text) := by
  induction text using lines_induction with
  | nil => exact absurd rfl nonempty
  | last line _ noLineFeed =>
      have unfinished : line.getLast? ≠ some '\n' :=
        fun isLast => noLineFeed (List.mem_of_getLast? isLast)
      rw [stripComments_of_not_mem nonempty noLineFeed, beforeComment_eq_self passes,
        withLineFeeds_of_not_mem noLineFeed, finishLine, if_neg unfinished]
  | cons piece rest noLineFeed ih =>
      rcases passes.split_at_lineFeed with ⟨first, second⟩
      rw [stripComments_append_lineFeed noLineFeed,
        beforeComment_eq_self first.dropCarriageReturn,
        withLineFeeds_append_lineFeed noLineFeed]
      cases rest with
      | nil => simp [withLineFeeds, finishLine]
      | cons character rest =>
          have laterNonempty := withLineFeeds_ne_nil (List.cons_ne_nil character rest)
          rw [ih second (by simp), finishLine_append (by simp), finishLine_cons laterNonempty]

/-- Two lines that differ by a comment at the end of the second one at most. -/
inductive Text.TerminatedLine.Commented : TerminatedLine → TerminatedLine → Prop where
  | unchanged (line : TerminatedLine) : Commented line line
  | appended (line : TerminatedLine) {comment : List Char} (noLineFeed : '\n' ∉ comment) :
      Commented line ⟨line.content ++ '/' :: '/' :: comment, line.terminator⟩

theorem mem_of_mem_dropCarriageReturn {character : Char}
    (character_mem : character ∈ dropCarriageReturn line) : character ∈ line := by
  unfold dropCarriageReturn at character_mem
  split at character_mem
  · exact (List.dropLast_prefix line).subset character_mem
  · exact character_mem

theorem exists_dropCarriageReturn_comment (front comment : List Char) :
    ∃ shorter, dropCarriageReturn (front ++ '/' :: '/' :: comment) =
      front ++ '/' :: '/' :: shorter := by
  unfold dropCarriageReturn
  split
  · rcases List.eq_nil_or_concat' comment with rfl | ⟨shorter, last, rfl⟩
    · simp at *
    · refine ⟨shorter, ?_⟩
      rw [← List.cons_append, ← List.cons_append, ← List.append_assoc, List.dropLast_concat]
  · exact ⟨comment, rfl⟩

theorem exists_terminator_beforeLineFeed (piece : List Char) :
    ∃ back, (beforeLineFeed piece).terminator = back ++ ['\n'] ∧ '\n' ∉ back := by
  unfold beforeLineFeed
  split
  · exact ⟨['\r'], rfl, by simp⟩
  · exact ⟨[], rfl, by simp⟩

/-- A comment at the end of a line is removed with the carriage return after it, if there is one. -/
theorem stripComments_appended {comment : List Char} (passes : Passes .outside piece .outside [])
    (noLineFeed : '\n' ∉ piece) (commentNoLineFeed : '\n' ∉ comment) :
    stripComments ((beforeLineFeed piece).content ++ '/' :: '/' :: comment ++
        (beforeLineFeed piece).terminator ++ rest) =
      dropCarriageReturn piece ++ '\n' :: stripComments rest := by
  rcases exists_terminator_beforeLineFeed piece with ⟨back, terminator, backNoLineFeed⟩
  have contentNoLineFeed : '\n' ∉ dropCarriageReturn piece :=
    fun lineFeed_mem => noLineFeed (mem_of_mem_dropCarriageReturn lineFeed_mem)
  have joined : (beforeLineFeed piece).content ++ '/' :: '/' :: comment ++
      (beforeLineFeed piece).terminator ++ rest =
        (dropCarriageReturn piece ++ '/' :: '/' :: (comment ++ back)) ++ '\n' :: rest := by
    simp [terminator, content_beforeLineFeed]
  rcases exists_dropCarriageReturn_comment (dropCarriageReturn piece) (comment ++ back) with
    ⟨shorter, dropped⟩
  rw [joined, stripComments_append_lineFeed
      (by simp [contentNoLineFeed, commentNoLineFeed, backNoLineFeed]),
    dropped, beforeComment_append passes.dropCarriageReturn]

/-- Comments at the ends of lines are removed from a text that has no others. -/
theorem stripComments_join_of_commented {commented : List TerminatedLine}
    (passes : Passes .outside text .outside [])
    (lines : List.Forall₂ Commented (terminatedLines text) commented) :
    stripComments (join commented) = stripComments text := by
  induction text using lines_induction generalizing commented with
  | nil =>
      cases lines
      rfl
  | last line nonempty noLineFeed =>
      rw [terminatedLines_of_not_mem nonempty noLineFeed] at lines
      rcases lines with _ | ⟨differs, _ | _⟩
      cases differs with
      | unchanged => simp [join]
      | appended =>
          rename_i comment commentNoLineFeed
          have joined : join [⟨line ++ '/' :: '/' :: comment, []⟩] =
              line ++ '/' :: '/' :: comment := by
            simp [join]
          rw [joined, stripComments_of_not_mem (by simp) (by simp [noLineFeed, commentNoLineFeed]),
            stripComments_of_not_mem nonempty noLineFeed, beforeComment_append passes,
            beforeComment_eq_self passes]
  | cons piece rest noLineFeed ih =>
      rcases passes.split_at_lineFeed with ⟨first, second⟩
      rw [terminatedLines_append_lineFeed noLineFeed] at lines
      rcases lines with _ | ⟨differs, others⟩
      have later := ih second others
      rw [stripComments_append_lineFeed noLineFeed]
      cases differs with
      | unchanged =>
          rw [join_cons, content_append_terminator, List.append_assoc, List.singleton_append,
            stripComments_append_lineFeed noLineFeed, later]
      | appended =>
          rename_i comment commentNoLineFeed
          rw [join_cons, stripComments_appended first noLineFeed commentNoLineFeed, later,
            beforeComment_eq_self first.dropCarriageReturn]

end MessageGen
