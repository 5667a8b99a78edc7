import Mathlib.Data.List.Basic
import Mathlib.Tactic.Common
import MessageGen.Text.Lines

/-!
# Lines with their terminators

A line ends with a line feed, perhaps with a carriage return in front of it, or with its
text. Together with what ends them, the lines of a text make up the text.
-/

namespace MessageGen.Text

/-- A line of a text and what ends it. -/
structure TerminatedLine where
  content : List Char
  terminator : List Char

namespace TerminatedLine

/-- The line that a line feed ends. -/
def beforeLineFeed (piece : List Char) : TerminatedLine :=
  if piece.getLast? = some '\r' then ⟨piece.dropLast, ['\r', '\n']⟩ else ⟨piece, ['\n']⟩

/-- The text of lines with their terminators. -/
def join (lines : List TerminatedLine) : List Char :=
  lines.flatMap fun line => line.content ++ line.terminator

end TerminatedLine

/--
The lines of a text. Each but the last ends at a line feed, with the carriage return that
stands directly in front of it if there is one, and what follows the last line feed is a
line if there is anything.
-/
inductive TerminatedLine.AreLines : List TerminatedLine → List Char → Prop where
  | nil : AreLines [] []
  | unfinished {content : List Char} (nonempty : content ≠ []) (noLineFeed : '\n' ∉ content) :
      AreLines [⟨content, []⟩] content
  | lineFeed {content rest : List Char} {lines : List TerminatedLine}
      (noLineFeed : '\n' ∉ content) (noReturn : content.getLast? ≠ some '\r')
      (later : AreLines lines rest) :
      AreLines (⟨content, ['\n']⟩ :: lines) (content ++ '\n' :: rest)
  | carriageReturn {content rest : List Char} {lines : List TerminatedLine}
      (noLineFeed : '\n' ∉ content) (later : AreLines lines rest) :
      AreLines (⟨content, ['\r', '\n']⟩ :: lines) (content ++ '\r' :: '\n' :: rest)

/-- The lines of a text with what ends them, which is nothing for an unfinished last line. -/
def terminatedLines (text : List Char) : List TerminatedLine :=
  let pieces := text.splitOn '\n'
  let terminated := pieces.dropLast.map TerminatedLine.beforeLineFeed
  match pieces.getLast? with
  | none | some [] => terminated
  | some unterminated => terminated ++ [⟨unterminated, []⟩]

/-- A text with a line feed for every carriage return that a line feed follows. -/
def withLineFeeds : List Char → List Char
  | '\r' :: '\n' :: rest => '\n' :: withLineFeeds rest
  | character :: rest => character :: withLineFeeds rest
  | [] => []

/-- A text with a line feed at its end. -/
def finishLine (text : List Char) : List Char :=
  if text.getLast? = some '\n' then text else text ++ ['\n']

/-- Induction over a text by its lines. -/
theorem lines_induction {motive : List Char → Prop} (nil : motive [])
    (last : ∀ line, line ≠ [] → '\n' ∉ line → motive line)
    (cons : ∀ piece rest, '\n' ∉ piece → motive rest → motive (piece ++ '\n' :: rest)) :
    ∀ text, motive text := by
  intro text
  induction length : text.length using Nat.strongRecOn generalizing text with
  | ind size ih =>
      subst length
      by_cases present : '\n' ∈ text
      · rcases List.eq_append_cons_of_mem present with ⟨piece, rest, rfl, noLineFeed⟩
        apply cons piece rest noLineFeed
        apply ih rest.length _ rest rfl
        simp only [List.length_append, List.length_cons]
        omega
      · by_cases isEmpty : text = []
        · exact isEmpty ▸ nil
        · exact last text isEmpty present

namespace TerminatedLine

variable {piece rest line : List Char}

theorem content_beforeLineFeed : (beforeLineFeed piece).content = dropCarriageReturn piece := by
  unfold beforeLineFeed dropCarriageReturn
  split <;> rfl

theorem content_append_terminator :
    (beforeLineFeed piece).content ++ (beforeLineFeed piece).terminator = piece ++ ['\n'] := by
  unfold beforeLineFeed
  split
  · rename_i isReturn
    rcases List.getLast?_eq_some_iff.mp isReturn with ⟨front, rfl⟩
    simp
  · rfl

@[simp]
theorem join_cons (line : TerminatedLine) (lines : List TerminatedLine) :
    join (line :: lines) = line.content ++ line.terminator ++ join lines :=
  rfl

end TerminatedLine

section Equations

open TerminatedLine

variable {piece rest line : List Char}

theorem terminatedLines_append_lineFeed (noLineFeed : '\n' ∉ piece) :
    terminatedLines (piece ++ '\n' :: rest) = beforeLineFeed piece :: terminatedLines rest := by
  rw [terminatedLines, List.splitOn_append_cons_self_of_not_mem noLineFeed, terminatedLines]
  rcases pieces : rest.splitOn '\n' with _ | ⟨first, others⟩
  · exact absurd pieces (List.splitOn_ne_nil _ _)
  · simp only [List.dropLast_cons_cons, List.map_cons, List.getLast?_cons_cons]
    split <;> rfl

theorem terminatedLines_of_not_mem (nonempty : line ≠ []) (noLineFeed : '\n' ∉ line) :
    terminatedLines line = [⟨line, []⟩] := by
  rw [terminatedLines, List.splitOn_eq_singleton noLineFeed]
  cases line with
  | nil => exact absurd rfl nonempty
  | cons character line => rfl

theorem map_content_terminatedLines (text : List Char) :
    (terminatedLines text).map (·.content) = lines text := by
  have contents : (fun line => line.content) ∘ beforeLineFeed = dropCarriageReturn :=
    funext fun _ => content_beforeLineFeed
  simp only [terminatedLines, lines]
  rcases (text.splitOn '\n').getLast? with _ | _ | _ <;> simp [contents]

theorem join_terminatedLines (text : List Char) : join (terminatedLines text) = text := by
  induction text using lines_induction with
  | nil => rfl
  | last line nonempty noLineFeed => simp [terminatedLines_of_not_mem nonempty noLineFeed, join]
  | cons piece rest noLineFeed ih =>
      rw [terminatedLines_append_lineFeed noLineFeed, join_cons, content_append_terminator, ih]
      simp

theorem areLines_terminatedLines (text : List Char) : AreLines (terminatedLines text) text := by
  induction text using lines_induction with
  | nil => exact .nil
  | last line nonempty noLineFeed =>
      rw [terminatedLines_of_not_mem nonempty noLineFeed]
      exact .unfinished nonempty noLineFeed
  | cons piece rest noLineFeed ih =>
      rw [terminatedLines_append_lineFeed noLineFeed, beforeLineFeed]
      split
      · rename_i isReturn
        rcases List.getLast?_eq_some_iff.mp isReturn with ⟨content, rfl⟩
        rw [List.dropLast_concat, List.append_assoc]
        exact .carriageReturn (fun lineFeed_mem => noLineFeed (List.mem_append_left _ lineFeed_mem))
          ih
      · rename_i notReturn
        exact .lineFeed noLineFeed notReturn ih

theorem TerminatedLine.AreLines.lineFeed_not_mem {lines : List TerminatedLine} {text : List Char}
    (areLines : AreLines lines text) : ∀ line ∈ lines, '\n' ∉ line.content := by
  induction areLines with
  | nil => simp
  | unfinished _ noLineFeed => simpa using noLineFeed
  | lineFeed noLineFeed _ _ ih => exact List.forall_mem_cons.mpr ⟨noLineFeed, ih⟩
  | carriageReturn noLineFeed _ ih => exact List.forall_mem_cons.mpr ⟨noLineFeed, ih⟩

theorem lines_append_lineFeed (noLineFeed : '\n' ∉ piece) :
    lines (piece ++ '\n' :: rest) = dropCarriageReturn piece :: lines rest := by
  simp only [← map_content_terminatedLines, terminatedLines_append_lineFeed noLineFeed,
    List.map_cons, content_beforeLineFeed]

theorem lines_of_not_mem (nonempty : line ≠ []) (noLineFeed : '\n' ∉ line) :
    lines line = [line] := by
  simp [← map_content_terminatedLines, terminatedLines_of_not_mem nonempty noLineFeed]

theorem finishLine_append (nonempty : rest ≠ []) :
    finishLine (piece ++ rest) = piece ++ finishLine rest := by
  simp only [finishLine, List.getLast?_append_of_ne_nil _ nonempty]
  split
  · rfl
  · exact List.append_assoc _ _ _

theorem finishLine_cons {character : Char} (nonempty : rest ≠ []) :
    finishLine (character :: rest) = character :: finishLine rest := by
  rw [← List.singleton_append, finishLine_append nonempty]
  rfl

theorem withLineFeeds_ne_nil (nonempty : line ≠ []) : withLineFeeds line ≠ [] := by
  fun_cases withLineFeeds line with
  | case1 rest => simp
  | case2 character rest _ => simp
  | case3 => exact absurd rfl nonempty

theorem withLineFeeds_of_not_mem (noLineFeed : '\n' ∉ line) : withLineFeeds line = line := by
  fun_induction withLineFeeds line with
  | case1 rest ih => simp at noLineFeed
  | case2 character rest _ ih =>
      rw [ih]
      exact fun lineFeed_mem => noLineFeed (List.mem_cons_of_mem character lineFeed_mem)
  | case3 => rfl

theorem withLineFeeds_append_lineFeed (noLineFeed : '\n' ∉ piece) :
    withLineFeeds (piece ++ '\n' :: rest) =
      dropCarriageReturn piece ++ '\n' :: withLineFeeds rest := by
  induction piece with
  | nil => rfl
  | cons character piece ih =>
      simp only [List.mem_cons, not_or] at noLineFeed
      cases piece with
      | nil =>
          by_cases isReturn : character = '\r'
          · simp [withLineFeeds, dropCarriageReturn, isReturn]
          · simp [withLineFeeds, dropCarriageReturn, isReturn]
      | cons next piece =>
          have nextOther : next ≠ '\n' := fun same => noLineFeed.2 (same ▸ List.mem_cons_self)
          have dropLater : dropCarriageReturn (character :: next :: piece) =
              character :: dropCarriageReturn (next :: piece) := by
            simp only [dropCarriageReturn, List.getLast?_cons_cons, List.dropLast_cons_cons]
            split <;> rfl
          have unchanged : withLineFeeds (character :: (next :: piece ++ '\n' :: rest)) =
              character :: withLineFeeds (next :: piece ++ '\n' :: rest) := by
            simp [withLineFeeds, nextOther]
          rw [List.cons_append, unchanged, ih noLineFeed.2, dropLater, List.cons_append]

end Equations

end MessageGen.Text
