import MessageGen.Toml.Value

/-!
# Numbers, truth values and dates of TOML

Scalars other than strings are words without blanks, apart from the one blank that may
stand between a date and a time. A word is read as a whole or not at all.
-/

namespace MessageGen.Toml

open Text

/-- Removes the underscores of a numeral; each must stand between two digits. -/
def dropUnderscores? (isDigit : Char → Bool) (text : List Char) : Option (List Char) :=
  let groups := text.splitOn '_'
  if groups.all fun group => !group.isEmpty && group.all isDigit then some groups.flatten
  else none

/-- The value of a numeral in a base up to sixteen, with underscores between digits. -/
def readBase? (base : Nat) (text : List Char) : Option Nat := do
  let isDigit := fun character => (hexDigit? character).elim false (· < base)
  let digits ← dropUnderscores? isDigit text
  return digits.foldl (fun value digit => base * value + (hexDigit? digit).getD 0) 0

/-- The digits of a decimal integer, which has no zero in front. -/
def readDecimalDigits? (text : List Char) : Option (List Char) := do
  let digits ← dropUnderscores? Char.isDigit text
  if digits.length = 1 ∨ digits.head? ≠ some '0' then some digits else none

/-- The integers that a value can have: those of 128 bits, with or without a sign. -/
def isIntegerInRange (value : Int) : Bool :=
  decide (-(1 <<< 127 : Nat) ≤ value ∧ value < (1 <<< 128 : Nat))

/-- Reads a decimal integer with an optional sign. -/
def readSigned? (word : List Char) : Option Int := do
  let (negative, unsigned) := splitSign word
  let digits ← readDecimalDigits? unsigned
  let size : Int := Nat.ofDigitChars 10 digits 0
  return if negative then -size else size

/-- Reads an integer: decimal with an optional sign, or in another base without one. -/
def readInteger? (word : List Char) : Option Int := do
  let value ←
    match word with
    | '0' :: 'x' :: digits => (readBase? 16 digits).map Int.ofNat
    | '0' :: 'o' :: digits => (readBase? 8 digits).map Int.ofNat
    | '0' :: 'b' :: digits => (readBase? 2 digits).map Int.ofNat
    | word => readSigned? word
  if isIntegerInRange value then some value else none

/-- Reads the exponent of a number, behind its letter. -/
def readExponent? (text : List Char) : Option Int := do
  let (negative, unsigned) := splitSign text
  let digits ← dropUnderscores? Char.isDigit unsigned
  let size : Int := Nat.ofDigitChars 10 digits 0
  return if negative then -size else size

/-- Reads a finite floating-point number, which has a fraction or an exponent. -/
def readFinite? (word : List Char) : Option Binary64 := do
  let (negative, unsigned) := splitSign word
  let isExponentLetter := fun character => character == 'e' || character == 'E'
  let mantissa := unsigned.takeWhile (!isExponentLetter ·)
  let exponentPart := unsigned.dropWhile (!isExponentLetter ·)
  let fractionPart := mantissa.dropWhile (· != '.')
  let whole ← readDecimalDigits? (mantissa.takeWhile (· != '.'))
  let fraction ←
    match fractionPart with
    | [] => if exponentPart.isEmpty then none else some []
    | _ :: digits => dropUnderscores? Char.isDigit digits
  let exponent ←
    match exponentPart with
    | [] => some 0
    | _ :: signed => readExponent? signed
  Binary64.ofDecimal? negative (Nat.ofDigitChars 10 (whole ++ fraction) 0)
    (exponent - fraction.length)

/-- Reads a floating-point number. -/
def readReal? (word : List Char) : Option Real :=
  let (negative, unsigned) := splitSign word
  if unsigned = ['i', 'n', 'f'] then some (.infinite negative)
  else if unsigned = ['n', 'a', 'n'] then some .undefined
  else (readFinite? word).map .finite

/-- Reads a number of exactly two digits. -/
def readTwoDigits? (text : List Char) : Option Nat :=
  if text.length = 2 then readDecimal? text else none

/-- The number of days of a month. -/
def daysOfMonth (year month : Nat) : Nat :=
  let leap := year % 4 = 0 ∧ (year % 100 ≠ 0 ∨ year % 400 = 0)
  if month = 2 then if leap then 29 else 28
  else if month = 4 ∨ month = 6 ∨ month = 9 ∨ month = 11 then 30
  else 31

/-- Whether a text is a date: year, month and day with hyphens between them. -/
def isDate (text : List Char) : Bool :=
  match text.splitOn '-' with
  | [yearText, monthText, dayText] =>
    match readDecimal? yearText, readTwoDigits? monthText, readTwoDigits? dayText with
    | some year, some month, some day =>
      yearText.length == 4 && 1 ≤ month && month ≤ 12 && 1 ≤ day && day ≤ daysOfMonth year month
    | _, _, _ => false
  | _ => false

/-- Whether a text is a number of two digits up to a bound. -/
def isTwoDigitsUpTo (bound : Nat) (text : List Char) : Bool :=
  (readTwoDigits? text).elim false (· ≤ bound)

/-- Whether a text is a second, with an optional fraction. -/
def isSecond (text : List Char) : Bool :=
  match text.splitOn '.' with
  | [second] => isTwoDigitsUpTo 60 second
  | [second, fraction] => isTwoDigitsUpTo 60 second && (readDecimal? fraction).isSome
  | _ => false

/-- Whether a text is a time of day; the seconds may be left out. -/
def isTime (text : List Char) : Bool :=
  match text.splitOn ':' with
  | [hour, minute] => isTwoDigitsUpTo 23 hour && isTwoDigitsUpTo 59 minute
  | [hour, minute, second] =>
    isTwoDigitsUpTo 23 hour && isTwoDigitsUpTo 59 minute && isSecond second
  | _ => false

/-- Whether a text is an offset from universal time: hours and minutes. -/
def isOffset (text : List Char) : Bool :=
  match text.splitOn ':' with
  | [hour, minute] => isTwoDigitsUpTo 23 hour && isTwoDigitsUpTo 59 minute
  | _ => false

/-- Whether a text is a time of day with an optional offset from universal time. -/
def isTimeWithOffset (text : List Char) : Bool :=
  let isSign := fun character => character == '+' || character == '-'
  match text.reverse with
  | 'Z' :: time | 'z' :: time => isTime time.reverse
  | _ =>
    match text.dropWhile (!isSign ·) with
    | [] => isTime text
    | _ :: offset => isTime (text.takeWhile (!isSign ·)) && isOffset offset

/-- Whether a text is a date, a time, or a date and a time with a letter or blank between. -/
def isMoment (text : List Char) : Bool :=
  isDate text || isTime text ||
    (isDate (text.take 10) &&
      match text.drop 10 with
      | 'T' :: time | 't' :: time | ' ' :: time => isTimeWithOffset time
      | _ => false)

/-- Reads a word as a scalar. -/
def readWord? (word : List Char) : Option Scalar :=
  if word = ['t', 'r', 'u', 'e'] then some (.boolean true)
  else if word = ['f', 'a', 'l', 's', 'e'] then some (.boolean false)
  else
    match readInteger? word with
    | some value => some (.integer value)
    | none =>
      match readReal? word with
      | some value => some (.real value)
      | none => if isMoment word then some (.moment (String.ofList word)) else none

end MessageGen.Toml
