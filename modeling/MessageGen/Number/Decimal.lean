import MessageGen.Number.Binary64
import MessageGen.Text.Numeral

/-!
# Decimal texts of binary numbers

A number is written with the fewest digits that read back as the same number, and of
two such decimals with the nearer one. How the digits are laid out is left to the
format that writes them: a `DecimalLayout` says which numbers are written without an
exponent and how an exponent looks.

Numbers are read from the texts of `readDecimal64?`: digits with an optional point and
an optional exponent, where a digit on one side of the point is enough.
-/

namespace MessageGen

open Text

/-- The positive number `digits * 10 ^ exponent`. -/
structure Decimal where
  /-- The digits, read as a whole number. -/
  digits : Nat
  /-- The exponent of ten. -/
  exponent : Int
  deriving DecidableEq, Repr, Inhabited

namespace Binary64

/-- The most digits that a number needs to be told from its neighbours. -/
def mostDigits : Nat := 17

/-- The least `magnitude` with the size of the number below `10 ^ magnitude`. -/
def magnitude (number : Binary64) : Int :=
  let (top, bottom) := number.ratio
  let estimate : Int := ((decimal top).length : Int) - ((decimal bottom).length : Int)
  let reached : Bool :=
    match estimate with
    | .ofNat power => bottom * powerOfTen power ≤ top
    | .negSucc power => bottom ≤ top * powerOfTen (power + 1)
  if reached then estimate + 1 else estimate

/-- The size of the number in units of `10 ^ exponent`, as a pair of whole numbers. -/
def inUnits (number : Binary64) (exponent : Int) : Nat × Nat :=
  let (top, bottom) := number.ratio
  match exponent with
  | .ofNat power => (top, bottom * powerOfTen power)
  | .negSucc power => (top * powerOfTen (power + 1), bottom)

/-- Whether a decimal, with the sign of the number, is read as the number. -/
def readsBack (number : Binary64) (decimal : Decimal) : Bool :=
  ofDecimal? number.negative decimal.digits decimal.exponent == some number

/--
The decimal with units of `10 ^ exponent` that reads back as the number: one of the
two next to it, the nearer one if both do, and from a tie the even one.
-/
def neighbour? (number : Binary64) (exponent : Int) : Option Decimal :=
  let (top, bottom) := number.inUnits exponent
  let below : Decimal := ⟨top / bottom, exponent⟩
  let above : Decimal := ⟨top / bottom + 1, exponent⟩
  match number.readsBack below, number.readsBack above with
  | true, true => some ⟨divideToNearest top bottom, exponent⟩
  | true, false => some below
  | false, true => some above
  | false, false => none

/-- The decimal of fewest digits that reads back as a number that is not zero. -/
def shortest (number : Binary64) : Decimal :=
  let magnitude := number.magnitude
  ((List.range mostDigits).findSome? fun (digits : Nat) =>
      number.neighbour? (magnitude - (digits + 1))).getD ⟨0, 0⟩

end Binary64

/-- How a format lays out the digits of a number. -/
structure DecimalLayout where
  /-- The least power of ten that is written without an exponent. -/
  leastPlain : Int
  /-- The first power of ten that is written with an exponent again. -/
  firstScientific : Int
  /-- What stands between the digits and an exponent that is not negative. -/
  exponentMark : List Char

namespace DecimalLayout

/-- Digits with a point after the given count of places, filled up with zeros. -/
def plain (digits : List Char) (places : Int) : List Char :=
  match places with
  | .negSucc zeros => ['0', '.'] ++ List.replicate (zeros + 1) '0' ++ digits
  | .ofNat 0 => ['0', '.'] ++ digits
  | .ofNat places =>
    if digits.length ≤ places then
      digits ++ List.replicate (places - digits.length) '0' ++ ['.', '0']
    else digits.take places ++ '.' :: digits.drop places

/-- Digits with a point after the first one, and an exponent. -/
def scientific (layout : DecimalLayout) (digits : List Char) (exponent : Int) : List Char :=
  let fraction := if digits.length ≤ 1 then [] else '.' :: digits.drop 1
  let mark := if exponent < 0 then ['e', '-'] else layout.exponentMark
  digits.take 1 ++ fraction ++ mark ++ decimal exponent.natAbs

/-- Removes the zeros at the end of a text. -/
def dropTrailingZeros (digits : List Char) : List Char :=
  (digits.reverse.dropWhile (· == '0')).reverse

/-- The text of a number in a layout. -/
def write (layout : DecimalLayout) (number : Binary64) : List Char :=
  let sign := if number.negative then ['-'] else []
  if number.isZero then sign ++ ['0', '.', '0']
  else
    let shortest := number.shortest
    let digits := decimal shortest.digits
    let places := shortest.exponent + digits.length
    let significant := dropTrailingZeros digits
    sign ++
      (if layout.leastPlain ≤ places - 1 ∧ places - 1 < layout.firstScientific then
        plain significant places
      else layout.scientific significant (places - 1))

end DecimalLayout

/-- Splits off the sign of a text; without one the number is positive. -/
def splitSign : List Char → Bool × List Char
  | '-' :: rest => (true, rest)
  | '+' :: rest => (false, rest)
  | text => (false, text)

/-- The exponent after its letter: an optional sign and at least one digit. -/
def readExponent? (text : List Char) : Option Int :=
  let (negative, digits) := splitSign text
  (readDecimal? digits).map fun exponent => if negative then -(exponent : Int) else exponent

/--
The nearest number to a text of digits with an optional sign, point and exponent. There
is none for any other text, nor beyond the greatest number.
-/
def readDecimal64? (text : List Char) : Option Binary64 := do
  let (negative, unsigned) := splitSign text
  let isExponentLetter := fun character => character == 'e' || character == 'E'
  let mantissa := unsigned.takeWhile (!isExponentLetter ·)
  let exponent ←
    match unsigned.dropWhile (!isExponentLetter ·) with
    | [] => some 0
    | _ :: exponentText => readExponent? exponentText
  let whole := mantissa.takeWhile (· != '.')
  let fraction := (mantissa.dropWhile (· != '.')).drop 1
  let digits ← readDecimal? (whole ++ fraction)
  Binary64.ofDecimal? negative digits (exponent - fraction.length)

example : (⟨-4, 16, ['e']⟩ : DecimalLayout).write ⟨false, 1, -1074⟩ = "5e-324".toList := by
  decide +kernel

end MessageGen
