import MessageGen.Proofs.Outcome
import MessageGen.Proofs.Text.Characters
import MessageGen.Proofs.Text.Trim
import MessageGen.Version.Range

/-!
# The grammar of version ranges

A version range is `none`, one numeral, a numeral with a plus sign, or two numerals in
order with a hyphen between them. Blanks may surround the range and its sign, and
nothing else is a range: every other text is refused with an error that holds it as it
was given.
-/

namespace MessageGen

open Text

/-- Digits that write a version, perhaps with zeros in front. -/
structure Version.IsNumeral (digits : List Char) (version : Version) : Prop where
  nonempty : digits ≠ []
  isDigit : ∀ character ∈ digits, character.isDigit = true
  value : Nat.ofDigitChars 10 digits 0 = version.toNat

/-- The faults of a text that is no range, whatever versions stand around it. -/
def RangeFault.IsGrammatical : RangeFault → Prop
  | .empty | .notANumber _ | .outOfRange _ | .reversedBounds => True
  | .startsAfterHighest _ | .notValid _ _ | .notFlexible _ _ => False

namespace VersionRange

/-- The texts of version ranges, without blanks around them. -/
inductive IsWritten : List Char → VersionRange → Prop where
  | none : IsWritten ['n', 'o', 'n', 'e'] .none
  | exact {digits : List Char} {version : Version} (numeral : version.IsNumeral digits) :
      IsWritten digits (.exact version)
  | openEnded {digits blanks : List Char} {low : Version} (numeral : low.IsNumeral digits)
      (blank : AllBlank blanks) :
      IsWritten (digits ++ blanks ++ ['+']) (.openEnded low)
  | bounded {lowDigits before after highDigits : List Char} {low high : Version}
      (lowNumeral : low.IsNumeral lowDigits) (beforeBlank : AllBlank before)
      (afterBlank : AllBlank after) (highNumeral : high.IsNumeral highDigits)
      (ordered : low ≤ high) :
      IsWritten (lowDigits ++ before ++ '-' :: (after ++ highDigits)) (.bounded low high)

/-- Whether an expression writes a range, with blanks around it. -/
def Writes (expression : String) (range : VersionRange) : Prop :=
  ∃ front text back, expression.toList = front ++ text ++ back ∧ AllBlank front ∧
    AllBlank back ∧ IsWritten text range

end VersionRange

namespace Version.IsNumeral

variable {digits : List Char} {version : Version}

theorem notBlank (numeral : version.IsNumeral digits) :
    ∀ character ∈ digits, isBlank character = false := by
  intro character character_mem
  exact isBlank_eq_false_of_isDigit (numeral.isDigit character character_mem)

theorem hasPlainEnds (numeral : version.IsNumeral digits) : HasPlainEnds digits :=
  ⟨fun character isHead => numeral.notBlank character (List.mem_of_mem_head? isHead),
    fun character isLast => numeral.notBlank character (List.mem_of_mem_getLast? isLast)⟩

theorem not_mem (numeral : version.IsNumeral digits) {character : Char}
    (notDigit : character.isDigit = false) : character ∉ digits := by
  intro character_mem
  rw [numeral.isDigit character character_mem] at notDigit
  cases notDigit

end Version.IsNumeral

theorem Text.readDecimal?_eq_some_iff {text : List Char} {value : Nat} :
    readDecimal? text = some value ↔
      text ≠ [] ∧ (∀ character ∈ text, character.isDigit = true) ∧
        Nat.ofDigitChars 10 text 0 = value := by
  simp [readDecimal?, and_assoc]

namespace VersionRange

variable {expression : String} {text lowText highText : List Char} {version low high : Version}
  {range : VersionRange}

theorem readVersion_eq_ok_iff :
    readVersion expression text = .ok version ↔ version.IsNumeral (trim text) := by
  have written : version.IsNumeral (trim text) ↔
      readDecimal? (trim text) = some version.toNat := by
    rw [readDecimal?_eq_some_iff]
    exact ⟨fun numeral => ⟨numeral.nonempty, numeral.isDigit, numeral.value⟩,
      fun ⟨nonempty, isDigit, value⟩ => ⟨nonempty, isDigit, value⟩⟩
  rw [written]
  cases isRead : readDecimal? (trim text) with
  | none => simp [readVersion, isRead]
  | some value =>
      have bound := version.toNat_lt
      by_cases small : value < UInt16.size
      · simp [readVersion, isRead, small, ← UInt16.toNat_inj, Nat.mod_eq_of_lt small]
      · simp only [readVersion, isRead, small, if_false, reduceCtorEq, false_iff,
          Option.some.injEq]
        rintro rfl
        exact small bound

theorem readVersion_numeral {digits front back : List Char} (numeral : version.IsNumeral digits)
    (frontBlank : AllBlank front) (backBlank : AllBlank back) :
    readVersion expression (front ++ digits ++ back) = .ok version := by
  rw [readVersion_eq_ok_iff,
    trim_append numeral.hasPlainEnds numeral.nonempty frontBlank backBlank]
  exact numeral

theorem exists_isGrammatical_of_readVersion {error : GenerationError}
    (refused : readVersion expression text = .error error) :
    ∃ fault, error = .malformedRange expression fault ∧ fault.IsGrammatical := by
  simp only [readVersion] at refused
  split at refused
  · cases refused
    exact ⟨_, rfl, trivial⟩
  · split at refused
    · cases refused
    · cases refused
      exact ⟨_, rfl, trivial⟩

/-- The hyphen that splits a text is the first one. -/
theorem splitAtHyphen?_append (before : '-' ∉ lowText) :
    splitAtHyphen? (lowText ++ '-' :: highText) = some (lowText, highText) := by
  simp only [splitAtHyphen?, dropWhile_bne_append before, takeWhile_bne_append before]

theorem splitAtHyphen?_eq_none (absent : '-' ∉ text) : splitAtHyphen? text = Option.none := by
  simp only [splitAtHyphen?, dropWhile_bne_eq_nil absent]

section Cases

theorem parse_of_plus (trimmed : trim expression.toList = text ++ ['+']) :
    parse expression = (readVersion expression text).map .openEnded := by
  have notNone : text ++ ['+'] ≠ ['n', 'o', 'n', 'e'] := by
    intro same
    have := congrArg List.getLast? same
    simp at this
  simp [parse, trimmed, notNone]

theorem parse_of_hyphen (trimmed : trim expression.toList = lowText ++ '-' :: highText)
    (first : '-' ∉ lowText) (noPlus : (lowText ++ '-' :: highText).getLast? ≠ some '+') :
    parse expression = (do
      let low ← readVersion expression lowText
      let high ← readVersion expression highText
      if high < low then .error (.malformedRange expression .reversedBounds)
      else .ok (.bounded low high)) := by
  have notNone : lowText ++ '-' :: highText ≠ ['n', 'o', 'n', 'e'] := by
    intro same
    have hyphen_mem : '-' ∈ ['n', 'o', 'n', 'e'] := by simp [← same]
    simp at hyphen_mem
  have nonempty : (lowText ++ '-' :: highText).isEmpty = false := by simp
  simp only [parse, trimmed, nonempty, Bool.false_eq_true, if_false, if_neg notNone,
    if_neg noPlus, splitAtHyphen?_append first]

theorem parse_of_numeral (trimmed : trim expression.toList = text) (nonempty : text ≠ [])
    (notNone : text ≠ ['n', 'o', 'n', 'e']) (noPlus : text.getLast? ≠ some '+')
    (noHyphen : '-' ∉ text) :
    parse expression = (readVersion expression text).map .exact := by
  simp [parse, trimmed, nonempty, notNone, noPlus, splitAtHyphen?_eq_none noHyphen]

end Cases

theorem isWritten_of_parse (parsed : parse expression = .ok range) :
    IsWritten (trim expression.toList) range := by
  have plain := hasPlainEnds_trim expression.toList
  generalize trimmed : trim expression.toList = text at plain
  by_cases isEmpty : text = []
  · simp [parse, trimmed, isEmpty] at parsed
  by_cases isNone : text = ['n', 'o', 'n', 'e']
  · simp only [parse, trimmed, isNone, List.isEmpty_cons, Bool.false_eq_true, if_false, if_true,
      Except.ok.injEq] at parsed
    subst parsed isNone
    exact .none
  by_cases isOpen : text.getLast? = some '+'
  · rcases List.getLast?_eq_some_iff.mp isOpen with ⟨start, rfl⟩
    rw [parse_of_plus trimmed, Except.map_eq_ok_iff] at parsed
    rcases parsed with ⟨low, startRead, rfl⟩
    have numeral := readVersion_eq_ok_iff.mp startRead
    have startPlain : ∀ character, start.head? = some character → isBlank character = false := by
      intro character isHead
      apply plain.first
      simp [isHead]
    rcases exists_trim_append startPlain with ⟨blanks, whole, blank⟩
    rw [whole]
    exact .openEnded numeral blank
  by_cases isBounded : '-' ∈ text
  · rcases List.eq_append_cons_of_mem isBounded with ⟨lowText, highText, rfl, first⟩
    rw [parse_of_hyphen trimmed first isOpen] at parsed
    simp only [Except.bind_eq_ok_iff, Except.ite_error_eq_ok_iff, Except.ok.injEq] at parsed
    rcases parsed with ⟨low, lowRead, high, highRead, ordered, rfl⟩
    have lowPlain : ∀ character, lowText.head? = some character → isBlank character = false := by
      intro character isHead
      apply plain.first
      simp [isHead]
    have highPlain : ∀ character, highText.getLast? = some character →
        isBlank character = false := by
      intro character isLast
      apply plain.last
      simp [List.getLast?_cons, isLast]
    rcases exists_trim_append lowPlain with ⟨before, lowWhole, beforeBlank⟩
    rcases exists_trim_prepend highPlain with ⟨after, highWhole, afterBlank⟩
    rw [lowWhole, highWhole]
    exact .bounded (readVersion_eq_ok_iff.mp lowRead) beforeBlank afterBlank
      (readVersion_eq_ok_iff.mp highRead) (UInt16.not_lt.mp ordered)
  · rw [parse_of_numeral trimmed isEmpty isNone isOpen isBounded, Except.map_eq_ok_iff] at parsed
    rcases parsed with ⟨version, isRead, rfl⟩
    have numeral := readVersion_eq_ok_iff.mp isRead
    rw [trim_eq_self plain.first plain.last] at numeral
    exact .exact numeral

theorem parse_of_isWritten (written : IsWritten text range)
    (trimmed : trim expression.toList = text) : parse expression = .ok range := by
  cases written with
  | none => simp [parse, trimmed]
  | exact numeral =>
      rename_i version
      have isRead : readVersion expression text = .ok version := by
        simpa using readVersion_numeral numeral allBlank_nil allBlank_nil
      rw [parse_of_numeral trimmed numeral.nonempty _ _ (numeral.not_mem rfl), isRead]
      · rfl
      · rintro rfl
        exact absurd List.mem_cons_self (numeral.not_mem (by decide : 'n'.isDigit = false))
      · intro isPlus
        exact numeral.not_mem (by decide : '+'.isDigit = false) (List.mem_of_getLast? isPlus)
  | openEnded numeral blank =>
      rename_i digits blanks low
      have isRead : readVersion expression (digits ++ blanks) = .ok low :=
        readVersion_numeral numeral allBlank_nil blank
      rw [parse_of_plus trimmed, isRead]
      rfl
  | bounded lowNumeral beforeBlank afterBlank highNumeral ordered =>
      rename_i lowDigits before after highDigits low high
      have lowRead : readVersion expression (lowDigits ++ before) = .ok low :=
        readVersion_numeral lowNumeral allBlank_nil beforeBlank
      have highRead : readVersion expression (after ++ highDigits) = .ok high := by
        simpa using readVersion_numeral highNumeral afterBlank allBlank_nil
      have first : '-' ∉ lowDigits ++ before := by
        intro hyphen_mem
        rcases List.mem_append.mp hyphen_mem with inDigits | inBlanks
        · exact lowNumeral.not_mem rfl inDigits
        · exact absurd (beforeBlank '-' inBlanks) (by decide)
      have noPlus : (lowDigits ++ before ++ '-' :: (after ++ highDigits)).getLast? ≠ some '+' := by
        rw [← List.cons_append, ← List.append_assoc,
          List.getLast?_append_of_ne_nil _ highNumeral.nonempty]
        intro isPlus
        exact highNumeral.not_mem (by decide : '+'.isDigit = false) (List.mem_of_getLast? isPlus)
      rw [parse_of_hyphen trimmed first noPlus, lowRead, highRead]
      exact if_neg (UInt16.not_lt.mpr ordered)

namespace IsWritten

theorem nonempty (written : IsWritten text range) : text ≠ [] := by
  cases written with
  | none => simp
  | exact numeral => exact numeral.nonempty
  | openEnded numeral blank => simp
  | bounded lowNumeral beforeBlank afterBlank highNumeral ordered => simp

theorem hasPlainEnds (written : IsWritten text range) : HasPlainEnds text := by
  cases written with
  | none => constructor <;> simp <;> decide
  | exact numeral => exact numeral.hasPlainEnds
  | openEnded numeral blank =>
      have signPlain : HasPlainEnds ['+'] := by constructor <;> simp <;> decide
      exact numeral.hasPlainEnds.append_append signPlain numeral.nonempty (by simp)
  | bounded lowNumeral beforeBlank afterBlank highNumeral ordered =>
      rw [← List.cons_append, ← List.append_assoc, List.append_assoc _ _ ('-' :: _)]
      exact lowNumeral.hasPlainEnds.append_append highNumeral.hasPlainEnds lowNumeral.nonempty
        highNumeral.nonempty

end IsWritten

theorem parse_eq_ok_iff : parse expression = .ok range ↔ Writes expression range := by
  constructor
  · intro parsed
    rcases exists_append_trim expression.toList with ⟨front, back, whole, frontBlank, backBlank⟩
    exact ⟨front, trim expression.toList, back, whole, frontBlank, backBlank,
      isWritten_of_parse parsed⟩
  · rintro ⟨front, text, back, whole, frontBlank, backBlank, written⟩
    apply parse_of_isWritten written
    rw [whole]
    exact trim_append written.hasPlainEnds written.nonempty frontBlank backBlank

theorem exists_isGrammatical_of_parse {error : GenerationError}
    (refused : parse expression = .error error) :
    ∃ fault, error = .malformedRange expression fault ∧ fault.IsGrammatical := by
  simp only [parse] at refused
  split at refused
  · cases refused
    exact ⟨_, rfl, trivial⟩
  split at refused
  · cases refused
  split at refused
  · exact exists_isGrammatical_of_readVersion (Except.map_eq_error_iff.mp refused)
  split at refused
  · exact exists_isGrammatical_of_readVersion (Except.map_eq_error_iff.mp refused)
  rcases Except.bind_eq_error_iff.mp refused with lowRefused | ⟨low, -, refused⟩
  · exact exists_isGrammatical_of_readVersion lowRefused
  rcases Except.bind_eq_error_iff.mp refused with highRefused | ⟨high, -, refused⟩
  · exact exists_isGrammatical_of_readVersion highRefused
  split at refused
  · cases refused
    exact ⟨_, rfl, trivial⟩
  · cases refused

theorem exists_malformedRange_of_parse {error : GenerationError}
    (refused : parse expression = .error error) :
    ∃ fault, error = .malformedRange expression fault := by
  rcases exists_isGrammatical_of_parse refused with ⟨fault, same, -⟩
  exact ⟨fault, same⟩

/--
A range is read from exactly the texts that write it. Every other text is refused as
malformed, with the text as it was given, whether the range is only read or also expanded.
-/
theorem parse_exact (expression : String) :
    (∀ range, parse expression = .ok range ↔ Writes expression range) ∧
      ((¬∃ range, Writes expression range) → ∃ fault,
        parse expression = .error (.malformedRange expression fault) ∧
        ∀ ceiling?, resolve expression ceiling? = .error (.malformedRange expression fault)) := by
  refine ⟨fun range => parse_eq_ok_iff, ?_⟩
  intro notWritten
  simp only [← parse_eq_ok_iff, ← Except.exists_error_iff] at notWritten
  rcases notWritten with ⟨error, refused⟩
  rcases exists_malformedRange_of_parse refused with ⟨fault, rfl⟩
  refine ⟨fault, refused, ?_⟩
  intro ceiling?
  rw [resolve, refused]
  rfl

/-- A range with zeros and blanks of several kinds, and one whose signs contradict each other. -/
theorem parse_exact_blanks :
    parse "\u2003007\t-\u00a0 65535\n" = .ok (.bounded 7 65535) ∧
      ∃ fault, parse " 1-2+" = .error (.malformedRange " 1-2+" fault) ∧
        ∀ ceiling?, resolve " 1-2+" ceiling? = .error (.malformedRange " 1-2+" fault) := by
  constructor
  · apply ((parse_exact _).1 _).mpr
    refine ⟨['\u2003'], "007\t-\u00a0 65535".toList, ['\n'], by decide, by decide, by decide, ?_⟩
    have lowNumeral : Version.IsNumeral "007".toList 7 :=
      ⟨by decide, List.all_eq_true.mp (by decide), by decide⟩
    have highNumeral : Version.IsNumeral "65535".toList 65535 :=
      ⟨by decide, List.all_eq_true.mp (by decide), by decide⟩
    have beforeBlank : AllBlank ['\t'] := by decide
    have afterBlank : AllBlank ['\u00a0', ' '] := by decide
    exact .bounded lowNumeral beforeBlank afterBlank highNumeral (by decide)
  · apply (parse_exact _).2
    rintro ⟨range, written⟩
    have parsed := ((parse_exact _).1 _).mpr written
    have refused : (parse " 1-2+").isOk = false := by decide +kernel
    simp [parsed, Except.isOk, Except.toBool] at refused

end VersionRange

end MessageGen
