import MessageGen.Proofs.Json.Decoding
import MessageGen.Proofs.Json.Moves
import MessageGen.Proofs.Schema.Comments
import MessageGen.Schema.Reader

/-!
# JSON texts have no comments

Whatever a scan takes from a text keeps in step with the comment remover: outside of
strings there is no slash, a string is left where the remover leaves it, and no string
goes over the end of a line. So a text that is read to its end is quiet as a whole.
-/

namespace MessageGen.Json

open Text LineState LineState.Passes

variable {text rest : List Char}

/-- A text that is passed over as a whole, with blanks around its value. -/
def IsText (text : List Char) : Prop :=
  readText Outline.passOver text = .ok ()

instance (text : List Char) : Decidable (IsText text) :=
  match outcome : readText Outline.passOver text with
  | .ok _ => .isTrue outcome
  | .error _ => .isFalse (by simp [IsText, outcome])

theorem passes_skipSpaces (text : List Char) : Passes .outside text .outside (skipSpaces text) :=
  dropWhile (by decide) (by decide) text

theorem passes_of_next? {first : Char} (found : next? text = some (first, rest)) :
    Passes .outside text .outside (first :: rest) := by
  unfold next? at found
  have passes := passes_skipSpaces text
  split at found
  · cases found
  · rename_i skipped
    cases found
    rwa [skipped] at passes

theorem passes_of_found {first : Char} (found : next? text = some (first, rest))
    (notSlash : first ≠ '/') (notQuote : first ≠ '"') : Passes .outside text .outside rest :=
  (passes_of_next? found).trans (outside notSlash notQuote (.refl _ _))

theorem passes_of_scanWord {word : List Char} {value : Unit} (noSlash : '/' ∉ word)
    (noQuote : '"' ∉ word) (scanned : scanWord word text = .done value rest) :
    Passes .outside text .outside rest := by
  fun_induction scanWord word text with
  | case1 =>
      cases scanned
      exact .refl _ _
  | case2 => cases scanned
  | case3 expected word text ih =>
      simp only [List.mem_cons, not_or] at noSlash noQuote
      exact outside (Ne.symm noSlash.1) (Ne.symm noQuote.1) (ih noSlash.2 noQuote.2 scanned)
  | case4 => cases scanned

section Numbers

theorem passes_of_scanDigits {digits : List Char} (scanned : scanDigits text = .done digits rest) :
    Passes .outside text .outside rest := by
  unfold scanDigits at scanned
  split at scanned
  · cases scanned
  · cases scanned
    exact dropWhile (by decide) (by decide) text

theorem passes_of_scanFraction {fraction : Option (List Char)}
    (scanned : scanFraction text = .done fraction rest) : Passes .outside text .outside rest := by
  unfold scanFraction at scanned
  split at scanned
  · split at scanned
    · rename_i digitsScanned
      cases scanned
      exact outside (by decide) (by decide) (passes_of_scanDigits digitsScanned)
    · cases scanned
  · cases scanned
    exact .refl _ _

theorem passes_splitSign (text : List Char) : Passes .outside text .outside (splitSign text).2 := by
  unfold splitSign
  split
  · exact outside (by decide) (by decide) (.refl _ _)
  · exact outside (by decide) (by decide) (.refl _ _)
  · exact .refl _ _

theorem passes_of_scanExponent {exponent : Option Int}
    (scanned : scanExponent text = .done exponent rest) : Passes .outside text .outside rest := by
  unfold scanExponent at scanned
  split at scanned
  · cases scanned
    exact .refl _ _
  · rename_i letter afterLetter
    split at scanned
    · rename_i isLetter
      have notSlash : letter ≠ '/' := by rcases isLetter with rfl | rfl <;> decide
      have notQuote : letter ≠ '"' := by rcases isLetter with rfl | rfl <;> decide
      have sign := passes_splitSign afterLetter
      split at scanned
      rename_i negative unsigned signSplit
      rw [signSplit] at sign
      split at scanned
      · rename_i digitsScanned
        cases scanned
        exact outside notSlash notQuote (sign.trans (passes_of_scanDigits digitsScanned))
      · cases scanned
    · cases scanned
      exact .refl _ _

theorem passes_of_scanUnsigned {negative : Bool} {number : NumberText}
    (scanned : scanUnsigned negative text = .done number rest) :
    Passes .outside text .outside rest := by
  unfold scanUnsigned at scanned
  split at scanned
  · cases scanned
  · cases scanned
  · rename_i digitsScanned
    split at scanned
    · cases scanned
    · rename_i fractionScanned
      split at scanned
      · cases scanned
      · rename_i exponentScanned
        cases scanned
        exact (passes_of_scanDigits digitsScanned).trans
          ((passes_of_scanFraction fractionScanned).trans (passes_of_scanExponent exponentScanned))

theorem passes_of_scanNumber {number : NumberText}
    (scanned : scanNumber text = .done number rest) : Passes .outside text .outside rest := by
  unfold scanNumber at scanned
  split at scanned
  · exact outside (by decide) (by decide) (passes_of_scanUnsigned scanned)
  · exact passes_of_scanUnsigned scanned

end Numbers

section Strings

theorem isSome_hexDigit?_of_readHex? {value : Nat} (isRead : readHex? text = some value) :
    ∀ character ∈ text, (hexDigit? character).isSome = true := by
  have digits : ∀ (text : List Char) (start value : Nat),
      text.foldlM (fun value character => (hexDigit? character).map (16 * value + ·)) start =
        some value → ∀ character ∈ text, (hexDigit? character).isSome = true := by
    intro text
    induction text with
    | nil => simp
    | cons first text ih =>
        intro start value folded
        simp only [List.foldlM_cons, Option.bind_eq_bind, Option.bind_eq_some_iff,
          Option.map_eq_some_iff] at folded
        rcases folded with ⟨_, ⟨digit, isDigit, rfl⟩, folded⟩
        simp only [List.forall_mem_cons, isDigit, Option.isSome_some, true_and]
        exact ih _ _ folded
  unfold readHex? at isRead
  split at isRead
  · cases isRead
  · exact digits text 0 value isRead

theorem passes_hexDigit {character : Char} (isDigit : (hexDigit? character).isSome = true)
    (after : Passes .inString text .inString rest) :
    Passes .inString (character :: text) .inString rest := by
  apply inString _ _ _ after
  all_goals
    rintro rfl
    cases isDigit

theorem passes_of_scanUnit {unit : Nat} (scanned : scanUnit text = .done unit rest) :
    Passes .inString text .inString rest := by
  unfold scanUnit at scanned
  split at scanned
  · split at scanned
    · rename_i isRead
      cases scanned
      have digits := isSome_hexDigit?_of_readHex? isRead
      simp only [List.forall_mem_cons] at digits
      exact passes_hexDigit digits.1 (passes_hexDigit digits.2.1
        (passes_hexDigit digits.2.2.1 (passes_hexDigit digits.2.2.2.1 (.refl _ _))))
    · cases scanned
  · cases scanned

theorem passes_of_scanTrailing {leading : Nat} {character : Option Char}
    (scanned : scanTrailing leading text = .done character rest) :
    Passes .inString text .inString rest := by
  unfold scanTrailing at scanned
  split at scanned
  · cases scanned
  · cases scanned
  · split at scanned
    · cases scanned
    · rename_i unitScanned
      split at scanned
      · cases scanned
        exact backslash (escaped (by decide) (passes_of_scanUnit unitScanned))
      · cases scanned
        exact .refl _ _
  · cases scanned
    exact .refl _ _

theorem passes_of_scanEscape {character : Option Char}
    (scanned : scanEscape text = .done character rest) : Passes .escaped text .inString rest := by
  unfold scanEscape at scanned
  split at scanned
  · cases scanned
  · split at scanned
    · cases scanned
    · rename_i unitScanned
      apply escaped (by decide)
      apply (passes_of_scanUnit unitScanned).trans
      split at scanned
      · cases scanned
        exact .refl _ _
      · split at scanned
        · exact passes_of_scanTrailing scanned
        · cases scanned
          exact .refl _ _
  · split at scanned
    · rename_i isEscape
      cases scanned
      apply escaped _ (.refl _ _)
      rintro rfl
      cases isEscape
    · cases scanned

theorem passes_of_scanString {reversed : List Char} {readable : Bool} {value : Option String}
    (scanned : scanString text reversed readable = .done value rest) :
    Passes .inString text .outside rest := by
  fun_induction scanString text reversed readable with
  | case1 => cases scanned
  | case2 =>
      cases scanned
      exact closeQuote (.refl _ _)
  | case3 => cases scanned
  | case4 _ _ _ _ _ escapeScanned _ ih =>
      exact backslash ((passes_of_scanEscape escapeScanned).trans (ih scanned))
  | case5 => cases scanned
  | case6 reversed readable character rest notQuote notBackslash notControl ih =>
      apply inString _ notQuote notBackslash (ih scanned)
      rintro rfl
      exact notControl (by decide)

end Strings

theorem passes_of_letter {letter : Char} {word : List Char} {outline : Unit → Outline}
    {value : Outline} (noSlash : '/' ∉ letter :: word) (noQuote : '"' ∉ letter :: word)
    (scanned : (scanWord word text).outline outline = .done value rest) :
    Passes .outside (letter :: text) .outside rest := by
  rcases Scan.outline_eq_done scanned with ⟨_, inner⟩
  simp only [List.mem_cons, not_or] at noSlash noQuote
  have word := passes_of_scanWord noSlash.2 noQuote.2 inner
  exact outside (Ne.symm noSlash.1) (Ne.symm noQuote.1) word

theorem passes_of_scanScalar {first : Char} {value : Outline}
    (scanned : scanScalar first text = .done value rest) :
    Passes .outside (first :: text) .outside rest := by
  unfold scanScalar at scanned
  split at scanned
  · rename_i isQuote
    rcases Scan.outline_eq_done scanned with ⟨_, inner⟩
    exact isQuote ▸ openQuote (passes_of_scanString inner)
  split at scanned
  · rename_i isLetter
    exact isLetter ▸ passes_of_letter (by decide) (by decide) scanned
  split at scanned
  · rename_i isLetter
    exact isLetter ▸ passes_of_letter (by decide) (by decide) scanned
  split at scanned
  · rename_i isLetter
    exact isLetter ▸ passes_of_letter (by decide) (by decide) scanned
  split at scanned
  · rcases Scan.outline_eq_done scanned with ⟨_, inner⟩
    exact passes_of_scanNumber inner
  · cases scanned

theorem passes_of_scanName {name : Option String} (scanned : scanName text = .done name rest) :
    Passes .outside text .outside rest := by
  unfold scanName at scanned
  split at scanned
  · cases scanned
  · rename_i found
    apply (passes_of_next? found).trans
    split at scanned
    · rename_i isQuote
      exact isQuote ▸ openQuote (passes_of_scanString scanned)
    · cases scanned

theorem passes_of_scanColon {value : Unit} (scanned : scanColon text = .done value rest) :
    Passes .outside text .outside rest := by
  unfold scanColon at scanned
  split at scanned
  · cases scanned
  · rename_i found
    split at scanned
    · rename_i isColon
      cases scanned
      exact passes_of_found found (isColon ▸ by decide) (isColon ▸ by decide)
    · cases scanned

theorem passes_of_moves {first second : Reading} (moves : Reading.Moves first second) :
    Passes .outside first.text .outside second.text := by
  cases moves with
  | emptyArray found closed | emptyObject found closed =>
      have opening := passes_of_found found (by decide) (by decide)
      exact opening.trans (passes_of_found closed (by decide) (by decide))
  | scalar found _ _ scanned => exact (passes_of_next? found).trans (passes_of_scanScalar scanned)
  | name nameScanned colonScanned =>
      exact (passes_of_scanName nameScanned).trans (passes_of_scanColon colonScanned)
  | openArray found | openObject found | nextItem found | closeArray found | nextEntry found
  | closeObject found => exact passes_of_found found (by decide) (by decide)

theorem passes_of_reflTransGen {first second : Reading}
    (moves : Relation.ReflTransGen Reading.Moves first second) :
    Passes .outside first.text .outside second.text := by
  induction moves with
  | refl => exact .refl _ _
  | tail _ last ih => exact ih.trans (passes_of_moves last)

/-- A text is quiet as a whole. -/
theorem passes_of_isText (isText : IsText text) : Passes .outside text .outside [] := by
  simp only [IsText, readText, Except.bind_eq_ok_iff] at isText
  rcases isText with ⟨_, readable, isDone⟩
  have onlyBlanks : skipSpaces (Outline.ofText text).2 = [] := by
    by_contra! left
    simp [left] at isDone
  have passes := passes_of_reflTransGen (Reading.reflTransGen_done readable)
  exact passes.trans (onlyBlanks ▸ passes_skipSpaces _)

theorem not_isText_nil : ¬IsText [] := by
  intro isText
  simp only [IsText, readText, Outline.ofText, Except.bind_eq_ok_iff] at isText
  rcases isText with ⟨_, readable, -⟩
  rw [readOn] at readable
  simp [next?, skipSpaces, abandon, Outline.passOver] at readable

theorem isText_of_parse {text : String} {value : Json} (parsed : parse text = .ok value) :
    IsText text.toList := by
  simp only [parse, readText, Except.bind_eq_ok_iff] at parsed
  rcases parsed with ⟨_, isRead, isDone⟩
  simp only [IsText, readText, passOver_of_ofOutline isRead]
  split at isDone
  · rename_i onlyBlanks
    simp [onlyBlanks, bind, Except.bind]
  · cases isDone

end MessageGen.Json

namespace MessageGen

open Text TerminatedLine

/--
A text that is accepted as JSON loses nothing but the carriage returns in front of its
line feeds, and comments at the ends of its lines make no difference.
-/
theorem stripLineComments_transparent {text : String}
    (accepted : (∃ value, Json.parse text = .ok value) ∨ Json.IsText text.toList) :
    stripLineComments text = String.ofList (finishLine (withLineFeeds text.toList)) ∧
      ∀ commented, List.Forall₂ Commented (terminatedLines text.toList) commented →
        stripLineComments (String.ofList (join commented)) = stripLineComments text ∧
          Document.parse (String.ofList (join commented)) = Document.parse text := by
  have isText : Json.IsText text.toList := by
    rcases accepted with ⟨_, parsed⟩ | isText
    · exact Json.isText_of_parse parsed
    · exact isText
  have passes := Json.passes_of_isText isText
  have nonempty : text.toList ≠ [] := by
    intro isEmpty
    rw [isEmpty] at isText
    exact Json.not_isText_nil isText
  refine ⟨congrArg String.ofList (stripComments_of_passes passes nonempty), ?_⟩
  intro commented lines
  have same : stripComments (String.ofList (join commented)).toList =
      stripComments text.toList := by
    rw [String.toList_ofList]
    exact stripComments_join_of_commented passes lines
  simp only [stripLineComments, Document.parse, same, and_self]

theorem stripLineComments_transparent_crlf :
    stripLineComments "\x7b\"a\":\"//\\\"\"// b\r\n\x7d//" =
      stripLineComments "\x7b\"a\":\"//\\\"\"\r\n\x7d" := by
  have isText : Json.IsText "\x7b\"a\":\"//\\\"\"\r\n\x7d".toList := by decide +kernel
  have lines : terminatedLines "\x7b\"a\":\"//\\\"\"\r\n\x7d".toList =
      [⟨"\x7b\"a\":\"//\\\"\"".toList, "\r\n".toList⟩, ⟨"\x7d".toList, []⟩] := by cbv
  have commented : List.Forall₂ Commented (terminatedLines "\x7b\"a\":\"//\\\"\"\r\n\x7d".toList)
      [⟨"\x7b\"a\":\"//\\\"\"".toList ++ '/' :: '/' :: " b".toList, "\r\n".toList⟩,
        ⟨"\x7d".toList ++ '/' :: '/' :: [], []⟩] := by
    rw [lines]
    exact .cons (.appended _ (by decide)) (.cons (.appended _ (by decide)) .nil)
  exact ((stripLineComments_transparent (.inr isText)).2 _ commented).1

end MessageGen
