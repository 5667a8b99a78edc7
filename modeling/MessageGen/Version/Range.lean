import MessageGen.Error
import MessageGen.Text.Blank

/-!
# Version ranges

A version range is written `3`, `1-4`, `2+` or `none`, with blanks allowed around the
range and around its bounds. An open range such as `2+` ends at a ceiling that comes
from the place where it stands; a range that stands alone takes the largest version it
mentions. `VersionRange.Holds` says which versions a range is meant for, without any
ceiling.
-/

namespace MessageGen

open Text

/-- A version range as it is written. -/
inductive VersionRange where
  /-- No version. -/
  | none
  /-- One version. -/
  | exact (version : Version)
  /-- The versions between two bounds, both included. -/
  | bounded (low high : Version)
  /-- The versions from a lower bound on. -/
  | openEnded (low : Version)
  deriving DecidableEq, Repr, Inhabited

namespace VersionRange

/-- Whether a range is meant for a version. -/
def Holds (range : VersionRange) (version : Version) : Prop :=
  match range with
  | .none => False
  | .exact only => version = only
  | .bounded low high => low ≤ version ∧ version ≤ high
  | .openEnded low => low ≤ version

instance (range : VersionRange) (version : Version) : Decidable (range.Holds version) := by
  cases range <;> unfold Holds <;> infer_instance

/-- Reads a version: a numeral of ASCII digits, with blanks around it. -/
def readVersion (expression : String) (text : List Char) : Except GenerationError Version :=
  let trimmed := trim text
  match readDecimal? trimmed with
  | .none => .error (.malformedRange expression (.notANumber (String.ofList trimmed)))
  | some value =>
    if value < UInt16.size then .ok (UInt16.ofNat value)
    else .error (.malformedRange expression (.outOfRange (String.ofList trimmed)))

/-- Splits a text at its first hyphen. -/
def splitAtHyphen? (text : List Char) : Option (List Char × List Char) :=
  match text.dropWhile (· != '-') with
  | [] => .none
  | _ :: rest => some (text.takeWhile (· != '-'), rest)

/-- Reads a range. The error holds the expression as it was given, with its blanks. -/
def parse (expression : String) : Except GenerationError VersionRange :=
  let text := trim expression.toList
  if text.isEmpty then .error (.malformedRange expression .empty)
  else if text = ['n', 'o', 'n', 'e'] then .ok .none
  else if text.getLast? = some '+' then (readVersion expression text.dropLast).map .openEnded
  else
    match splitAtHyphen? text with
    | .none => (readVersion expression text).map .exact
    | some (lowText, highText) => do
      let low ← readVersion expression lowText
      let high ← readVersion expression highText
      if high < low then .error (.malformedRange expression .reversedBounds)
      else .ok (.bounded low high)

/-- The largest version that a range mentions, and `0` if it mentions none. -/
def largestBound : VersionRange → Version
  | .none => 0
  | .exact version => version
  | .bounded _ high => high
  | .openEnded low => low

/-- The versions of a range up to a ceiling; only open ranges need the ceiling. -/
def expand (range : VersionRange) (ceiling : Version) : VersionSet :=
  match range with
  | .none => .empty
  | .exact version => .single version
  | .bounded low high => .range low high
  | .openEnded low => .range low ceiling

/--
Reads a range and expands it. Without a ceiling, as for the versions of a message
itself, the largest version that the range mentions takes its place.
-/
def resolve (expression : String) (ceiling? : Option Version) :
    Except GenerationError VersionSet := do
  let range ← parse expression
  return range.expand (ceiling?.getD range.largestBound)

/--
Reads the range of the flexible versions of a message with the given valid versions.
An open range ends at the highest valid version. A version that is not valid is an
error and not left out.
-/
def resolveFlexible (expression : String) (valid : VersionSet) :
    Except GenerationError VersionSet := do
  let range ← parse expression
  let ceiling := valid.max?.getD 0
  let startsTooHigh :=
    match range with
    | .openEnded low => decide (ceiling < low)
    | _ => false
  if startsTooHigh then .error (.malformedRange expression (.startsAfterHighest ceiling))
  else
    let flexible := range.expand ceiling
    match flexible.toList.find? (!valid.contains ·) with
    | some stray => .error (.malformedRange expression (.notValid stray valid))
    | Option.none => .ok flexible

end VersionRange

end MessageGen
