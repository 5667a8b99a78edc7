import MessageGen.Class.Literal
import MessageGen.Proofs.Class.IntegerLiterals

/-!
# Literals of real numbers

In Java a number is a `double` only if it has a point or an exponent. The literals that
are written here always have one of them: a number that is laid out without an exponent
gets a point, with zeros beside it where no digits are left. For this some digit has to
remain when the zeros at the end are dropped, and so the decimal of a number other than
zero is not zero.
-/

namespace MessageGen

open Text

namespace RealLiteral

/-- Whether a text is one or more digits. -/
def IsDigits (text : List Char) : Prop :=
  text ≠ [] ∧ ∀ character ∈ text, character.isDigit = true

/-- Whether a text is what follows the letter of an exponent. -/
inductive IsExponent : List Char → Prop where
  | unsigned {digits : List Char} (areDigits : IsDigits digits) : IsExponent digits
  | negative {digits : List Char} (areDigits : IsDigits digits) : IsExponent ('-' :: digits)

/-- Whether a text is a number with a point, an exponent or both. -/
inductive IsNumeral : List Char → Prop where
  | point {whole fraction : List Char} (isWhole : IsDigits whole)
      (isFraction : IsDigits fraction) : IsNumeral (whole ++ '.' :: fraction)
  | exponent {whole exponent : List Char} (isWhole : IsDigits whole)
      (isExponent : IsExponent exponent) : IsNumeral (whole ++ 'e' :: exponent)
  | pointAndExponent {whole fraction exponent : List Char} (isWhole : IsDigits whole)
      (isFraction : IsDigits fraction) (isExponent : IsExponent exponent) :
      IsNumeral (whole ++ '.' :: fraction ++ 'e' :: exponent)

/-- Whether a text is a literal of a `double`, with or without a minus sign. -/
inductive IsDouble : List Char → Prop where
  | unsigned {numeral : List Char} (isNumeral : IsNumeral numeral) : IsDouble numeral
  | negative {numeral : List Char} (isNumeral : IsNumeral numeral) : IsDouble ('-' :: numeral)

variable {text others : List Char} {number : Nat} {count : Nat}

theorem isDigits_decimal : IsDigits (decimal number) := by
  refine ⟨Nat.toDigits_ne_nil, ?_⟩
  intro character character_mem
  exact Json.isDigit_of_mem_decimal character_mem

theorem isDigits_zero : IsDigits ['0'] := by
  simp [IsDigits]

theorem IsDigits.append (areDigits : IsDigits text)
    (otherDigits : ∀ character ∈ others, character.isDigit = true) : IsDigits (text ++ others) := by
  refine ⟨by simp [areDigits.1], ?_⟩
  intro character character_mem
  rcases List.mem_append.mp character_mem with first_mem | other_mem
  · exact areDigits.2 character first_mem
  · exact otherDigits character other_mem

theorem isDigit_of_mem_zeros :
    ∀ character ∈ List.replicate count '0', character.isDigit = true := by
  simp +contextual [List.mem_replicate]

theorem IsDigits.take (areDigits : IsDigits text) (positive : 0 < count) :
    IsDigits (text.take count) := by
  refine ⟨?_, ?_⟩
  · simp [areDigits.1]
    omega
  · intro character character_mem
    exact areDigits.2 character (List.mem_of_mem_take character_mem)

theorem IsDigits.drop (areDigits : IsDigits text) (below : count < text.length) :
    IsDigits (text.drop count) := by
  refine ⟨?_, ?_⟩
  · simpa using below
  · intro character character_mem
    exact areDigits.2 character (List.mem_of_mem_drop character_mem)

theorem IsNumeral.exists_isDigit (isNumeral : IsNumeral text) :
    ∃ character ∈ text, character.isDigit = true := by
  have ofWhole {whole rest : List Char} (isWhole : IsDigits whole) :
      ∃ character ∈ whole ++ rest, character.isDigit = true := by
    rcases List.exists_mem_of_ne_nil whole isWhole.1 with ⟨first, first_mem⟩
    exact ⟨first, List.mem_append_left rest first_mem, isWhole.2 first first_mem⟩
  cases isNumeral with
  | point isWhole => exact ofWhole isWhole
  | exponent isWhole => exact ofWhole isWhole
  | pointAndExponent isWhole =>
      rw [List.append_assoc]
      exact ofWhole isWhole

theorem IsDouble.exists_isDigit (isDouble : IsDouble text) :
    ∃ character ∈ text, character.isDigit = true := by
  cases isDouble with
  | unsigned isNumeral => exact isNumeral.exists_isDigit
  | negative isNumeral =>
      rcases isNumeral.exists_isDigit with ⟨digit, digit_mem, isDigit⟩
      exact ⟨digit, List.mem_cons_of_mem _ digit_mem, isDigit⟩

end RealLiteral

open RealLiteral

namespace Binary64

variable {number : Binary64} {exponent : Int} {shorter : Decimal}

theorem le_divideToNearest (numerator denominator : Nat) :
    numerator / denominator ≤ divideToNearest numerator denominator := by
  simp only [divideToNearest]
  split_ifs <;> omega

/-- Zero reads as zero, so a number other than zero has a decimal other than zero. -/
theorem digits_ne_zero_of_readsBack (notZero : number.isZero = false)
    (readsBack : number.readsBack shorter = true) : shorter.digits ≠ 0 := by
  intro isZero
  simp only [Binary64.readsBack, ofDecimal?, isZero, decide_true, Bool.true_or, if_true,
    beq_iff_eq, Option.some.injEq] at readsBack
  rw [← readsBack] at notZero
  cases notZero

theorem digits_ne_zero_of_neighbour? (notZero : number.isZero = false)
    (found : number.neighbour? exponent = some shorter) : shorter.digits ≠ 0 := by
  simp only [neighbour?] at found
  split at found
  · rename_i readsBelow readsAbove
    have below := digits_ne_zero_of_readsBack notZero readsBelow
    have nearest := le_divideToNearest (number.inUnits exponent).1 (number.inUnits exponent).2
    cases found
    exact ((Nat.pos_of_ne_zero below).trans_le nearest).ne'
  · rename_i readsBelow readsAbove
    cases found
    exact digits_ne_zero_of_readsBack notZero readsBelow
  · cases found
    exact Nat.succ_ne_zero _
  · cases found

/-- The decimal of a number is not zero, or it is what stands in for a missing one. -/
theorem shortest_cases (notZero : number.isZero = false) :
    number.shortest = ⟨0, 0⟩ ∨ number.shortest.digits ≠ 0 := by
  simp only [shortest]
  cases found : (List.range mostDigits).findSome? fun (digits : Nat) =>
      number.neighbour? (number.magnitude - (digits + 1)) with
  | none => exact .inl rfl
  | some shorter =>
      rcases List.exists_of_findSome?_eq_some found with ⟨digits, -, isNeighbour⟩
      exact .inr (digits_ne_zero_of_neighbour? notZero isNeighbour)

end Binary64

namespace DecimalLayout

variable {layout : DecimalLayout} {digits : List Char}

theorem isDigits_dropTrailingZeros {number : Nat} (notZero : number ≠ 0) :
    IsDigits (dropTrailingZeros (decimal number)) := by
  refine ⟨?_, ?_⟩
  · intro isEmpty
    have allZeros : ∀ character ∈ decimal number, character = '0' := by
      simpa [dropTrailingZeros, List.dropWhile_eq_nil_iff] using isEmpty
    rcases numeral : decimal number with _ | ⟨first, rest⟩
    · exact Nat.toDigits_ne_nil numeral
    · have isZero := allZeros first (by simp [numeral])
      subst isZero
      exact Json.decimal_head_ne_zero (Nat.pos_of_ne_zero notZero) rest numeral
  · intro character character_mem
    exact Json.isDigit_of_mem_decimal (mem_of_mem_dropTrailingZeros character_mem)

theorem isNumeral_plain (areDigits : IsDigits digits) (places : Int) :
    IsNumeral (plain digits places) := by
  unfold plain
  split
  · rename_i zeros
    have isFraction : IsDigits (List.replicate (zeros + 1) '0' ++ digits) :=
      IsDigits.append ⟨by simp, isDigit_of_mem_zeros⟩ areDigits.2
    rw [List.append_assoc]
    exact .point isDigits_zero isFraction
  · exact .point isDigits_zero areDigits
  · rename_i places notZero
    have positive : 0 < places := Nat.pos_of_ne_zero fun isZero => notZero (by rw [isZero])
    split
    · exact .point (areDigits.append isDigit_of_mem_zeros) isDigits_zero
    · rename_i shorter
      exact .point (areDigits.take positive) (areDigits.drop (by omega))

theorem isNumeral_scientific (mark : layout.exponentMark = ['e']) (areDigits : IsDigits digits)
    (exponent : Int) : IsNumeral (layout.scientific digits exponent) := by
  have first : IsDigits (digits.take 1) := areDigits.take (by decide)
  have hasExponent : ∃ rest, IsExponent rest ∧
      (if exponent < 0 then ['e', '-'] else layout.exponentMark) ++ decimal exponent.natAbs =
        'e' :: rest := by
    split
    · exact ⟨_, .negative isDigits_decimal, rfl⟩
    · exact ⟨_, .unsigned isDigits_decimal, by rw [mark, List.singleton_append]⟩
  rcases hasExponent with ⟨rest, isExponent, written⟩
  simp only [scientific]
  rw [List.append_assoc, written]
  split
  · rw [List.append_nil]
    exact .exponent first isExponent
  · rename_i longer
    exact .pointAndExponent first (areDigits.drop (by omega)) isExponent

/-- A layout whose exponents follow an `e` writes every number as a literal of a `double`. -/
theorem isDouble_write (mark : layout.exponentMark = ['e'])
    (plainOne : layout.leastPlain ≤ 0 ∧ 0 < layout.firstScientific) (number : Binary64) :
    IsDouble (layout.write number) := by
  have signed {numeral : List Char} (isNumeral : IsNumeral numeral) :
      IsDouble ((if number.negative then ['-'] else []) ++ numeral) := by
    split
    · exact .negative isNumeral
    · exact .unsigned isNumeral
  simp only [write]
  split
  · exact signed (.point isDigits_zero isDigits_zero)
  · rename_i notZero
    apply signed
    rcases Binary64.shortest_cases (Bool.eq_false_of_not_eq_true notZero) with standIn | notZero
    · -- no digit is left here, but the number is laid out without an exponent
      rw [standIn, if_pos (by simpa [decimal] using plainOne)]
      exact .point isDigits_zero isDigits_zero
    · have areDigits := isDigits_dropTrailingZeros notZero
      split
      · exact isNumeral_plain areDigits _
      · exact isNumeral_scientific mark areDigits _

end DecimalLayout

theorem isDouble_of_realLiteral? {written literal : String}
    (made : realLiteral? written = some literal) : IsDouble literal.toList := by
  rcases Option.map_eq_some_iff.mp made with ⟨number, -, rfl⟩
  rw [String.toList_ofList]
  exact DecimalLayout.isDouble_write rfl (by decide) number

end MessageGen
