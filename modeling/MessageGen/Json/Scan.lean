import MessageGen.Json.Problem

/-!
# Words, numbers and strings of a JSON text

A scan takes one word, number or string from the front of a text and returns what
follows it, or the fault that stopped it. A value may be wanted, or only passed over
because its name is unknown. The two differ in little: a value that is passed over may
be a number out of range or a string with half of a surrogate pair, and a number that
the end of the text cuts off counts as malformed there. So a fault has a category for
each, and a string or number without a value is scanned all the same.
-/

namespace MessageGen.Json

open Text

/-- The category of a fault where a value is wanted, and where it is passed over. -/
structure Fault where
  /-- The category where the value is wanted. -/
  wanted : Category
  /-- The category where the value is passed over. -/
  passedOver : Category
  deriving DecidableEq, Repr, Inhabited

namespace Fault

/-- A character that cannot stand where it does. -/
def malformed : Fault := ⟨.malformed, .malformed⟩

/-- The end of the text inside a value. -/
def truncated : Fault := ⟨.truncated, .truncated⟩

/-- The end of the text inside a number. -/
def cutNumber : Fault := ⟨.truncated, .malformed⟩

end Fault

/-- The outcome of a scan. -/
inductive Scan (α : Type) where
  /-- A value, and the text after it. -/
  | done (value : α) (rest : List Char)
  /-- The fault that stopped the scan. -/
  | failed (fault : Fault)

/-- The four blanks that may stand between the parts of a JSON text. -/
def isSpace (character : Char) : Bool :=
  character == ' ' || character == '\n' || character == '\t' || character == '\r'

/-- Drops the blanks in front of a text. -/
def skipSpaces (text : List Char) : List Char :=
  text.dropWhile isSpace

theorem length_skipSpaces_le (text : List Char) : (skipSpaces text).length ≤ text.length :=
  (List.dropWhile_suffix _).length_le

/-- Takes a fixed word from the front of a text. -/
def scanWord : List Char → List Char → Scan Unit
  | [], text => .done () text
  | _ :: _, [] => .failed .truncated
  | expected :: word, character :: text =>
    if expected = character then scanWord word text else .failed .malformed

theorem scanWord_length {word text rest : List Char} {value : Unit}
    (scanned : scanWord word text = .done value rest) : rest.length ≤ text.length := by
  fun_induction scanWord word text with
  | case1 => simp_all
  | case2 => simp at scanned
  | case3 expected word text ih => have := ih scanned; simp; omega
  | case4 => simp at scanned

/-! ## Numbers -/

/-- The parts of a number as it is written. -/
structure NumberText where
  negative : Bool
  /-- The digits before the point. -/
  whole : List Char
  /-- The digits after the point, if there is one. -/
  fraction : Option (List Char)
  /-- The exponent, if there is one. -/
  exponent : Option Int

/-- The digits in front of a text; the fault if there are none. -/
def scanDigits (text : List Char) : Scan (List Char) :=
  match text.takeWhile Char.isDigit with
  | [] => .failed (if text.isEmpty then .cutNumber else .malformed)
  | digits => .done digits (text.dropWhile Char.isDigit)

/-- The part after the point, if a point stands in front of a text. -/
def scanFraction : List Char → Scan (Option (List Char))
  | '.' :: rest =>
    match scanDigits rest with
    | .done digits rest => .done (some digits) rest
    | .failed fault => .failed fault
  | text => .done none text

/-- The exponent, if its letter stands in front of a text. -/
def scanExponent : List Char → Scan (Option Int)
  | [] => .done none []
  | letter :: rest =>
    if letter = 'e' ∨ letter = 'E' then
      let (negative, unsigned) := splitSign rest
      match scanDigits unsigned with
      | .done digits rest =>
        let size : Int := Nat.ofDigitChars 10 digits 0
        .done (some (if negative then -size else size)) rest
      | .failed fault => .failed fault
    else .done none (letter :: rest)

/-- A number without its sign. A zero in front stands alone. -/
def scanUnsigned (negative : Bool) (text : List Char) : Scan NumberText :=
  match scanDigits text with
  | .failed fault => .failed fault
  | .done ('0' :: _ :: _) _ => .failed .malformed
  | .done whole rest =>
    match scanFraction rest with
    | .failed fault => .failed fault
    | .done fraction rest =>
      match scanExponent rest with
      | .failed fault => .failed fault
      | .done exponent rest => .done ⟨negative, whole, fraction, exponent⟩ rest

/-- Takes a number from the front of a text. -/
def scanNumber : List Char → Scan NumberText
  | '-' :: rest => scanUnsigned true rest
  | text => scanUnsigned false text

theorem scanDigits_length {text rest digits : List Char}
    (scanned : scanDigits text = .done digits rest) : rest.length < text.length := by
  unfold scanDigits at scanned
  split at scanned
  · simp at scanned
  · rename_i nonempty
    obtain ⟨_, rfl⟩ := Scan.done.inj scanned
    have whole :=
      congrArg List.length (List.takeWhile_append_dropWhile (p := Char.isDigit) (l := text))
    have : (text.takeWhile Char.isDigit).length ≠ 0 := by
      intro zero
      exact nonempty (List.length_eq_zero_iff.1 zero)
    rw [List.length_append] at whole
    omega

theorem scanFraction_length {text rest : List Char} {fraction : Option (List Char)}
    (scanned : scanFraction text = .done fraction rest) : rest.length ≤ text.length := by
  unfold scanFraction at scanned
  split at scanned
  · split at scanned
    · rename_i digitsScanned
      have := scanDigits_length digitsScanned
      simp only [Scan.done.injEq] at scanned
      simp only [List.length_cons, ← scanned.2]
      omega
    · simp at scanned
  · simp only [Scan.done.injEq] at scanned
    simp [scanned.2]

theorem length_splitSign_le (text : List Char) : (splitSign text).2.length ≤ text.length := by
  unfold splitSign
  split <;> simp

theorem scanExponent_length {text rest : List Char} {exponent : Option Int}
    (scanned : scanExponent text = .done exponent rest) : rest.length ≤ text.length := by
  unfold scanExponent at scanned
  split at scanned
  · simp only [Scan.done.injEq] at scanned
    simp [← scanned.2]
  · rename_i letter afterLetter
    split at scanned
    · split at scanned
      rename_i negative unsigned signSplit
      split at scanned
      · rename_i digitsScanned
        have := scanDigits_length digitsScanned
        have := length_splitSign_le afterLetter
        simp only [Scan.done.injEq] at scanned
        simp only [List.length_cons, ← scanned.2]
        simp only [signSplit] at this
        omega
      · simp at scanned
    · simp only [Scan.done.injEq] at scanned
      simp [← scanned.2]

theorem scanUnsigned_length {negative : Bool} {text rest : List Char} {number : NumberText}
    (scanned : scanUnsigned negative text = .done number rest) : rest.length < text.length := by
  unfold scanUnsigned at scanned
  split at scanned
  · simp at scanned
  · simp at scanned
  · rename_i digitsScanned
    have := scanDigits_length digitsScanned
    split at scanned
    · simp at scanned
    · rename_i fractionScanned
      have := scanFraction_length fractionScanned
      split at scanned
      · simp at scanned
      · rename_i exponentScanned
        have := scanExponent_length exponentScanned
        simp only [Scan.done.injEq] at scanned
        rw [← scanned.2]
        omega

theorem scanNumber_length {text rest : List Char} {number : NumberText}
    (scanned : scanNumber text = .done number rest) : rest.length < text.length := by
  unfold scanNumber at scanned
  split at scanned
  · have := scanUnsigned_length scanned
    simp only [List.length_cons]
    omega
  · exact scanUnsigned_length scanned

/-! ## The value of a number -/

/-- The greatest integer: the greatest number of 64 bits. -/
def greatestInteger : Nat := 18446744073709551615

/-- The size of the least integer: that of the least number of 64 bits with a sign. -/
def leastIntegerSize : Nat := 9223372036854775808

/--
Appends digits to a number as long as it stays in the range of integers, and returns
the digits that were left over.
-/
def appendDigits : Nat → List Char → Nat × List Char
  | start, [] => (start, [])
  | start, digit :: digits =>
    let longer := 10 * start + (digit.toNat - '0'.toNat)
    if longer ≤ greatestInteger then appendDigits longer digits else (start, digit :: digits)

/-- The greatest power of ten that is a number of the format. -/
def greatestPower : Nat := 308

/-- A power of ten, rounded to a number of the format. -/
def powerOfTen? (exponent : Nat) : Option Binary64 :=
  Binary64.ofRatio? false (powerOfTen exponent) 1

/--
Scales a number by a power of ten, with one rounding for the power and one for the
product. Powers below the format are applied in several steps.
-/
def scaleByPower (number : Binary64) (exponent : Int) : Option Binary64 :=
  if exponent.natAbs ≤ greatestPower then do
    let power ← powerOfTen? exponent.natAbs
    if 0 ≤ exponent then number.multiply? power else number.divide? power
  else if number.isZero then some number
  else if 0 ≤ exponent then none
  else do
    let power ← powerOfTen? greatestPower
    let scaled ← number.divide? power
    scaleByPower scaled (exponent + greatestPower)
termination_by exponent.natAbs
decreasing_by
  simp only [greatestPower] at *
  omega

/--
The floating-point value of a number. Its significand is a 64-bit integer made of as
many of its digits as fit; the digits after those count as places only.
-/
def NumberText.real? (number : NumberText) : Option Binary64 := do
  let (wholePart, wholeLeft) := appendDigits 0 number.whole
  let fraction := number.fraction.getD []
  let (significand, fractionLeft) := appendDigits wholePart fraction
  let places : Int := wholeLeft.length - (fraction.length - fractionLeft.length : Nat)
  let unscaled ← Binary64.ofRatio? false significand 1
  let scaled ← scaleByPower unscaled (places + number.exponent.getD 0)
  return if number.negative then scaled.negate else scaled

/--
The value of a number. It is an integer if it is written as one and lies in the range;
zero with a minus sign is a floating-point number. There is none beyond the greatest
floating-point number.
-/
def NumberText.value? (number : NumberText) : Option JsonNumber :=
  let size := Nat.ofDigitChars 10 number.whole 0
  let isWhole := number.fraction.isNone && number.exponent.isNone
  if isWhole && !number.negative && size ≤ greatestInteger then some (.integer size)
  else if isWhole && number.negative && 0 < size && size ≤ leastIntegerSize then
    some (.integer (-size))
  else number.real?.map .real

/-! ## Strings -/

/-- The characters of UTF-8 text up to here and the next four bytes are enough for four digits. -/
def hasFourBytes (text : List Char) : Bool :=
  4 ≤ (String.ofList (text.take 4)).utf8ByteSize

/-- Takes four hexadecimal digits from the front of a text. -/
def scanUnit : List Char → Scan Nat
  | first :: second :: third :: fourth :: rest =>
    match readHex? [first, second, third, fourth] with
    | some unit => .done unit rest
    | none =>
      .failed (if hasFourBytes [first, second, third, fourth] then .malformed else .truncated)
  | text => .failed (if hasFourBytes text then .malformed else .truncated)

/-- Whether a code unit is the first half of a surrogate pair. -/
def isLeading (unit : Nat) : Bool :=
  0xD800 ≤ unit && unit ≤ 0xDBFF

/-- Whether a code unit is the second half of a surrogate pair. -/
def isTrailing (unit : Nat) : Bool :=
  0xDC00 ≤ unit && unit ≤ 0xDFFF

/-- The character of a surrogate pair. -/
def pairedCharacter (leading trailing : Nat) : Char :=
  Char.ofNat (0x10000 + 0x400 * (leading - 0xD800) + (trailing - 0xDC00))

/-- The character of an escape of one letter. -/
def escapedCharacter? : Char → Option Char
  | '"' => some '"'
  | '\\' => some '\\'
  | '/' => some '/'
  | 'b' => some '\x08'
  | 'f' => some '\x0c'
  | 'n' => some '\n'
  | 'r' => some '\r'
  | 't' => some '\t'
  | _ => none

/--
Takes the second half of a surrogate pair from the front of a text. Anything else is
left where it is, and the first half has no character.
-/
def scanTrailing (leading : Nat) : List Char → Scan (Option Char)
  | [] => .failed .truncated
  | ['\\'] => .failed .truncated
  | '\\' :: 'u' :: digits =>
    match scanUnit digits with
    | .failed fault => .failed fault
    | .done unit rest =>
      if isTrailing unit then .done (some (pairedCharacter leading unit)) rest
      else .done none ('\\' :: 'u' :: digits)
  | text => .done none text

/--
Takes an escape, after its backslash, from the front of a text. Half of a surrogate
pair has no character.
-/
def scanEscape : List Char → Scan (Option Char)
  | [] => .failed .truncated
  | 'u' :: digits =>
    match scanUnit digits with
    | .failed fault => .failed fault
    | .done unit rest =>
      if isTrailing unit then .done none rest
      else if isLeading unit then scanTrailing unit rest
      else .done (some (Char.ofNat unit)) rest
  | letter :: rest =>
    match escapedCharacter? letter with
    | some character => .done (some character) rest
    | none => .failed .malformed

theorem scanUnit_length {text rest : List Char} {unit : Nat}
    (scanned : scanUnit text = .done unit rest) : rest.length < text.length := by
  unfold scanUnit at scanned
  split at scanned
  · split at scanned
    · simp only [Scan.done.injEq] at scanned
      simp only [List.length_cons, ← scanned.2]
      omega
    · simp at scanned
  · simp at scanned

theorem scanTrailing_length {leading : Nat} {text rest : List Char} {character : Option Char}
    (scanned : scanTrailing leading text = .done character rest) :
    rest.length ≤ text.length := by
  unfold scanTrailing at scanned
  split at scanned
  · simp at scanned
  · simp at scanned
  · split at scanned
    · simp at scanned
    · rename_i unitScanned
      have := scanUnit_length unitScanned
      split at scanned <;> simp only [Scan.done.injEq] at scanned
      · simp only [← scanned.2, List.length_cons]
        omega
      · exact Nat.le_of_eq (congrArg List.length scanned.2.symm)
  · simp only [Scan.done.injEq] at scanned
    exact Nat.le_of_eq (congrArg List.length scanned.2.symm)

theorem scanEscape_length {text rest : List Char} {character : Option Char}
    (scanned : scanEscape text = .done character rest) : rest.length < text.length := by
  unfold scanEscape at scanned
  split at scanned
  · simp at scanned
  · split at scanned
    · simp at scanned
    · rename_i unitScanned
      have := scanUnit_length unitScanned
      simp only [List.length_cons]
      split at scanned
      · simp only [Scan.done.injEq] at scanned
        rw [← scanned.2]
        omega
      · split at scanned
        · have := scanTrailing_length scanned
          omega
        · simp only [Scan.done.injEq] at scanned
          rw [← scanned.2]
          omega
  · split at scanned
    · simp only [Scan.done.injEq] at scanned
      simp only [List.length_cons, ← scanned.2]
      omega
    · simp at scanned

/-- The fault of a string; one that has lost its value is malformed where it is wanted. -/
def stringFault (readable : Bool) (category : Category) : Fault :=
  ⟨if readable then category else .malformed, category⟩

/--
Takes the rest of a string, after its opening quote, from the front of a text. The
characters so far stand in reverse order; half of a surrogate pair makes the string
unreadable.
-/
def scanString (text reversed : List Char) (readable : Bool) : Scan (Option String) :=
  match text with
  | [] => .failed (stringFault readable .truncated)
  | character :: rest =>
    if character = '"' then
      .done (if readable then some (String.ofList reversed.reverse) else none) rest
    else if character = '\\' then
      match _escapeScanned : scanEscape rest with
      | .failed fault => .failed (stringFault readable fault.passedOver)
      | .done escaped afterEscape =>
        scanString afterEscape (escaped.toList ++ reversed) (readable && escaped.isSome)
    else if character.toNat < 0x20 then .failed (stringFault readable .malformed)
    else scanString rest (character :: reversed) readable
termination_by text.length
decreasing_by
  · have := scanEscape_length _escapeScanned
    simp only [List.length_cons]
    omega
  · simp

theorem scanString_length {text reversed rest : List Char} {readable : Bool}
    {value : Option String} (scanned : scanString text reversed readable = .done value rest) :
    rest.length < text.length := by
  fun_induction scanString text reversed readable with
  | case1 => simp at scanned
  | case2 =>
    simp only [Scan.done.injEq] at scanned
    simp [← scanned.2]
  | case3 => simp at scanned
  | case4 _ _ _ _ _ escapeScanned _ ih =>
    have := scanEscape_length escapeScanned
    have := ih scanned
    simp only [List.length_cons]
    omega
  | case5 => simp at scanned
  | case6 _ _ _ _ _ _ _ ih =>
    have := ih scanned
    simp only [List.length_cons]
    omega

end MessageGen.Json
