import Mathlib.Algebra.Ring.Parity
import Mathlib.Data.List.Basic
import Mathlib.Data.List.Induction
import Mathlib.Tactic.Common
import MessageGen.Schema.Comment

/-!
# String literals along a line

A quote outside of strings opens a literal, and the next quote behind an even number of
backslashes closes it. Where a line stands between its literals is a matter of these
rules alone; a scan along the line follows them with three states, since an odd number of
backslashes is the same as being escaped. So a line is cut in front of the first two
slashes that stand outside of every literal.
-/

namespace MessageGen

variable {line front body text : List Char} {character : Char} {position : Nat}

/-- How many backslashes stand together at the end of a text. -/
def closingBackslashes (text : List Char) : Nat :=
  (text.reverse.takeWhile (· = '\\')).length

/-- Whether a literal that was opened in front of a text is still open behind it. -/
def StaysOpen (body : List Char) : Prop :=
  ∀ before after, body = before ++ '"' :: after → Odd (closingBackslashes before)

/-- Whether a line that starts with a text is outside of every literal behind the text. -/
inductive OutsideLiterals : List Char → Prop where
  | start : OutsideLiterals []
  | plain {front : List Char} {character : Char} (outside : OutsideLiterals front)
      (notQuote : character ≠ '"') : OutsideLiterals (front ++ [character])
  | literal {front body : List Char} (outside : OutsideLiterals front) (isOpen : StaysOpen body)
      (closes : Even (closingBackslashes body)) :
      OutsideLiterals (front ++ '"' :: body ++ ['"'])

/-- Whether a line that starts with a text has a literal open behind it, with this body so far. -/
def InsideLiteral (front body : List Char) : Prop :=
  ∃ before, front = before ++ '"' :: body ∧ OutsideLiterals before ∧ StaysOpen body

/-- Whether a comment starts at a position of a line. -/
def StartsComment (line : List Char) (position : Nat) : Prop :=
  (∃ comment, line.drop position = '/' :: '/' :: comment) ∧ OutsideLiterals (line.take position)

/-- Cuts a line at the first of some positions, or not at all if there is none. -/
inductive CutAtFirst (starts : Nat → Prop) (line : List Char) : List Char → Prop where
  | first {position : Nat} (isStart : starts position)
      (isFirst : ∀ earlier < position, ¬starts earlier) :
      CutAtFirst starts line (line.take position)
  | none (noStart : ∀ position, ¬starts position) : CutAtFirst starts line line

theorem CutAtFirst.isPrefix {starts : Nat → Prop} {kept : List Char}
    (cut : CutAtFirst starts line kept) : kept <+: line := by
  cases cut with
  | first isStart isFirst => exact List.take_prefix _ _
  | none noStart => exact List.prefix_rfl

section Literals

@[simp]
theorem closingBackslashes_concat_backslash (text : List Char) :
    closingBackslashes (text ++ ['\\']) = closingBackslashes text + 1 := by
  simp [closingBackslashes]

theorem closingBackslashes_concat (notBackslash : character ≠ '\\') :
    closingBackslashes (text ++ [character]) = 0 := by
  simp [closingBackslashes, notBackslash]

theorem staysOpen_nil : StaysOpen [] := by
  intro before after joined
  simp at joined

/-- A literal stays open behind one more character unless this is a quote that closes it. -/
theorem staysOpen_concat_iff :
    StaysOpen (body ++ [character]) ↔
      StaysOpen body ∧ (character = '"' → Odd (closingBackslashes body)) := by
  constructor
  · intro isOpen
    refine ⟨?_, ?_⟩
    · rintro before after rfl
      exact isOpen before (after ++ [character]) (by simp)
    · rintro rfl
      exact isOpen body [] rfl
  · rintro ⟨isOpen, escapes⟩ before after joined
    rcases List.eq_nil_or_concat' after with rfl | ⟨shorter, last, rfl⟩
    · rcases List.append_inj' joined rfl with ⟨rfl, isQuote⟩
      exact escapes (by simpa using isQuote)
    · have shorterJoined : body ++ [character] = (before ++ '"' :: shorter) ++ [last] := by
        simpa using joined
      exact isOpen before shorter (List.append_inj' shorterJoined rfl).1

theorem InsideLiteral.concat (inside : InsideLiteral front body)
    (escapes : character = '"' → Odd (closingBackslashes body)) :
    InsideLiteral (front ++ [character]) (body ++ [character]) := by
  rcases inside with ⟨before, rfl, outside, isOpen⟩
  exact ⟨before, by simp, outside, staysOpen_concat_iff.mpr ⟨isOpen, escapes⟩⟩

theorem InsideLiteral.close (inside : InsideLiteral front body)
    (closes : Even (closingBackslashes body)) : OutsideLiterals (front ++ ['"']) := by
  rcases inside with ⟨before, rfl, outside, isOpen⟩
  exact .literal outside isOpen closes

end Literals

namespace LineState

/-- Where a scan stands behind a text. -/
def after (state : LineState) (text : List Char) : LineState :=
  text.foldl next state

@[simp]
theorem after_concat (state : LineState) (text : List Char) (character : Char) :
    state.after (text ++ [character]) = (state.after text).next character := by
  simp [after]

/-- What the front of a line is like if a scan has a state behind it. -/
def Describes : LineState → List Char → Prop
  | .outside, front => OutsideLiterals front
  | .inString, front => ∃ body, InsideLiteral front body ∧ Even (closingBackslashes body)
  | .escaped, front => ∃ body, InsideLiteral front body ∧ Odd (closingBackslashes body)

/-- Inside a literal, a character adds a backslash to those at the end or leaves none there. -/
theorem describes_next {state : LineState} (describes : state.Describes front)
    (character : Char) : (state.next character).Describes (front ++ [character]) := by
  cases state with
  | outside =>
      by_cases isQuote : character = '"'
      · rw [isQuote]
        exact ⟨[], ⟨front, rfl, describes, staysOpen_nil⟩, .zero⟩
      · simp only [next, isQuote, if_false]
        exact .plain describes isQuote
  | inString =>
      rcases describes with ⟨body, inside, even⟩
      by_cases isQuote : character = '"'
      · rw [isQuote]
        exact inside.close even
      have stillInside := inside.concat (fun same => absurd same isQuote)
      by_cases isBackslash : character = '\\'
      · subst isBackslash
        refine ⟨body ++ ['\\'], stillInside, ?_⟩
        rw [closingBackslashes_concat_backslash]
        exact even.add_one
      · simp only [next, isQuote, isBackslash, if_false]
        refine ⟨body ++ [character], stillInside, ?_⟩
        rw [closingBackslashes_concat isBackslash]
        exact .zero
  | escaped =>
      rcases describes with ⟨body, inside, odd⟩
      refine ⟨body ++ [character], inside.concat (fun _ => odd), ?_⟩
      by_cases isBackslash : character = '\\'
      · rw [isBackslash, closingBackslashes_concat_backslash]
        exact odd.add_one
      · rw [closingBackslashes_concat isBackslash]
        exact .zero

theorem describes_after (front : List Char) : (after .outside front).Describes front := by
  induction front using List.reverseRecOn with
  | nil => exact .start
  | append_singleton front character ih =>
      rw [after_concat]
      exact describes_next ih character

/-- Inside a literal, a scan tells how many backslashes there are at the end, up to parity. -/
theorem after_inString (isOpen : StaysOpen body) :
    after .inString body = if Even (closingBackslashes body) then .inString else .escaped := by
  induction body using List.reverseRecOn with
  | nil => rfl
  | append_singleton body character ih =>
      rcases staysOpen_concat_iff.mp isOpen with ⟨isOpen, escapes⟩
      rw [after_concat, ih isOpen]
      by_cases isBackslash : character = '\\'
      · subst isBackslash
        simp only [closingBackslashes_concat_backslash, Nat.even_add_one]
        split <;> simp [next, *]
      · rw [closingBackslashes_concat isBackslash]
        split
        · rename_i even
          have notQuote : character ≠ '"' :=
            fun isQuote => Nat.not_even_iff_odd.mpr (escapes isQuote) even
          simp [next, isBackslash, notQuote]
        · simp [next]

theorem after_of_outsideLiterals (outside : OutsideLiterals front) :
    after .outside front = .outside := by
  induction outside with
  | start => rfl
  | plain _ notQuote ih => simp [ih, next, notQuote]
  | @literal front body _ isOpen closes ih =>
      have inside : after .outside (front ++ '"' :: body) = .inString := by
        have opened : after .outside (front ++ '"' :: body) =
            after ((after .outside front).next '"') body := by
          simp [after]
        rw [opened, ih]
        exact (after_inString isOpen).trans (if_pos closes)
      rw [after_concat, inside]
      rfl

/-- A scan is outside of strings exactly where a line is outside of its literals. -/
theorem after_eq_outside_iff : after .outside front = .outside ↔ OutsideLiterals front := by
  constructor
  · intro isOutside
    have describes := describes_after front
    rwa [isOutside] at describes
  · exact after_of_outsideLiterals

instance : DecidablePred OutsideLiterals :=
  fun _ => decidable_of_iff _ after_eq_outside_iff

example : OutsideLiterals "\"a\\\\\"".toList ∧ ¬OutsideLiterals "\"a\\\"".toList := by decide

/-- Whether a comment starts at a position of a line, for a scan with a state in front of it. -/
def StartsCommentFrom (state : LineState) (line : List Char) (position : Nat) : Prop :=
  (∃ comment, line.drop position = '/' :: '/' :: comment) ∧
    state.after (line.take position) = .outside

theorem startsCommentFrom_cons_succ {state : LineState} :
    state.StartsCommentFrom (character :: text) (position + 1) ↔
      (state.next character).StartsCommentFrom text position :=
  .rfl

theorem cutAtFirst_beforeComment (state : LineState) (line : List Char) :
    CutAtFirst (state.StartsCommentFrom line) line (beforeComment state line) := by
  fun_induction beforeComment state line with
  | case1 state =>
      apply CutAtFirst.none
      rintro position ⟨⟨comment, slashes⟩, -⟩
      simp at slashes
  | case2 comment =>
      have isStart : StartsCommentFrom .outside ('/' :: '/' :: comment) 0 := ⟨⟨comment, rfl⟩, rfl⟩
      exact CutAtFirst.first isStart (by simp)
  | case3 state character rest noComment ih =>
      have notHere : ¬state.StartsCommentFrom (character :: rest) 0 := by
        rintro ⟨⟨comment, slashes⟩, isOutside⟩
        obtain ⟨isSlash, isSecond⟩ : character = '/' ∧ rest = '/' :: comment := by
          simpa using slashes
        exact noComment comment isOutside isSlash isSecond
      generalize beforeComment (state.next character) rest = kept at ih ⊢
      cases ih with
      | first isStart isFirst =>
          refine CutAtFirst.first (startsCommentFrom_cons_succ.mpr isStart) ?_
          rintro (_ | earlier) isEarlier
          · exact notHere
          · exact isFirst earlier (Nat.lt_of_succ_lt_succ isEarlier)
      | none noStart =>
          apply CutAtFirst.none
          rintro (_ | position)
          · exact notHere
          · exact noStart position

end LineState

open LineState in
/-- What the scan keeps of a line ends where the first comment starts. -/
theorem cutAtFirst_startsComment (line : List Char) :
    CutAtFirst (StartsComment line) line (beforeComment .outside line) := by
  have sameStarts : LineState.StartsCommentFrom .outside line = StartsComment line := by
    funext position
    rw [StartsCommentFrom, StartsComment, after_eq_outside_iff]
  exact sameStarts ▸ cutAtFirst_beforeComment .outside line

end MessageGen
