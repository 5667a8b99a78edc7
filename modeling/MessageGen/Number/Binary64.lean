/-!
# Binary floating-point numbers of 64 bits

A finite number of this format is a sign, a whole significand below `2 ^ 53` and an
exponent of two that is at least `-1074`. Numbers are kept as these three parts and
computed with exact whole arithmetic followed by one rounding, so that every law can
be stated in numbers without fractions. Rounding goes to the nearest number of the
format and from a tie to the even significand; a result beyond the greatest number
is refused.
-/

namespace MessageGen

/-- A whole power of ten. -/
def powerOfTen (exponent : Nat) : Nat :=
  Nat.pow 10 exponent

/-- A finite number `significand * 2 ^ exponent` with its sign. -/
structure Binary64 where
  /-- Whether the number is negative; zero has both signs. -/
  negative : Bool
  significand : Nat
  /-- The exponent of two. -/
  exponent : Int
  deriving DecidableEq, Repr, Inhabited

namespace Binary64

/-- The least exponent of the format. -/
def leastExponent : Int := -1074

/-- The greatest exponent of the format. -/
def greatestExponent : Int := 971

/-- The first whole number that is no significand: `2 ^ 53`. -/
def significandBound : Nat := 9007199254740992

/-- A quotient rounded to the nearest whole number, from a tie to the even one. -/
def divideToNearest (numerator denominator : Nat) : Nat :=
  let quotient := numerator / denominator
  let twice := 2 * (numerator % denominator)
  if twice < denominator then quotient
  else if denominator < twice then quotient + 1
  else quotient + quotient % 2

/-- The quotient `numerator / denominator / 2 ^ exponent`, as a pair of whole numbers. -/
def scaledRatio (numerator denominator : Nat) (exponent : Int) : Nat × Nat :=
  match exponent with
  | .ofNat shift => (numerator, denominator <<< shift)
  | .negSucc shift => (numerator <<< (shift + 1), denominator)

/-- Zero with a sign. -/
def zero (negative : Bool) : Binary64 :=
  ⟨negative, 0, leastExponent⟩

/--
The number nearest to a quotient of two positive whole numbers, or nothing beyond the
greatest number. The exponent is the least one that leaves the significand below its
bound; rounding up to the bound itself moves to the next exponent.
-/
def ofRatio? (negative : Bool) (numerator denominator : Nat) : Option Binary64 :=
  if numerator = 0 then some (zero negative)
  else
    let estimate : Int := (numerator.log2 : Int) - (denominator.log2 : Int) - 52
    let (top, bottom) := scaledRatio numerator denominator estimate
    let fitting := if top / bottom < significandBound / 2 then estimate - 1 else estimate
    let exponent := max fitting leastExponent
    let (top, bottom) := scaledRatio numerator denominator exponent
    let rounded := divideToNearest top bottom
    let (significand, exponent) :=
      if rounded = significandBound then (rounded / 2, exponent + 1) else (rounded, exponent)
    if greatestExponent < exponent then none
    else some ⟨negative, significand, exponent⟩

/-- The size of a number as a quotient of two whole numbers. -/
def ratio (number : Binary64) : Nat × Nat :=
  match number.exponent with
  | .ofNat shift => (number.significand <<< shift, 1)
  | .negSucc shift => (number.significand, 1 <<< (shift + 1))

/-- The product of two numbers, rounded once. -/
def multiply? (left right : Binary64) : Option Binary64 :=
  let (leftTop, leftBottom) := left.ratio
  let (rightTop, rightBottom) := right.ratio
  ofRatio? (left.negative != right.negative) (leftTop * rightTop) (leftBottom * rightBottom)

/-- The quotient of a number by one that is not zero, rounded once. -/
def divide? (left right : Binary64) : Option Binary64 :=
  let (leftTop, leftBottom) := left.ratio
  let (rightTop, rightBottom) := right.ratio
  ofRatio? (left.negative != right.negative) (leftTop * rightBottom) (leftBottom * rightTop)

/-- The number with the other sign. -/
def negate (number : Binary64) : Binary64 :=
  { number with negative := !number.negative }

/-- Whether the number is zero, of either sign. -/
def isZero (number : Binary64) : Bool :=
  number.significand == 0

/-- More decimal places than this round to zero or beyond the greatest number. -/
def decimalLimit : Int := 400

/--
The number nearest to `digits * 10 ^ exponent`. Far outside the format the answer is
known from the count of digits alone, so that huge exponents need no huge powers.
-/
def ofDecimal? (negative : Bool) (digits : Nat) (exponent : Int) : Option Binary64 :=
  let magnitude := ((Nat.toDigits 10 digits).length : Int) + exponent
  if digits = 0 || magnitude < -decimalLimit then some (zero negative)
  else if decimalLimit < magnitude then none
  else
    match exponent with
    | .ofNat power => ofRatio? negative (digits * powerOfTen power) 1
    | .negSucc power => ofRatio? negative digits (powerOfTen (power + 1))

example : ofDecimal? false 1 (-1) = some ⟨false, 7205759403792794, -56⟩ := by decide +kernel
example : ofDecimal? false 5 (-324) = some ⟨false, 1, -1074⟩ := by decide +kernel
example : ofDecimal? true 17976931348623159 292 = none := by decide +kernel

end Binary64

end MessageGen
