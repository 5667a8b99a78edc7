/-!
# Numerals

Decimal numerals are written and read with core's `Nat.toDigits` and
`Nat.ofDigitChars`; hexadecimal digits come in both cases. Only ASCII digits
count: a digit of another script is an ordinary character here.
-/

namespace MessageGen.Text

/-- The decimal numeral of a number, without leading zeros. -/
def decimal (number : Nat) : List Char :=
  Nat.toDigits 10 number

/-- The value of a nonempty text of ASCII digits; leading zeros are allowed. -/
def readDecimal? (text : List Char) : Option Nat :=
  if text.isEmpty || !text.all Char.isDigit then none
  else some (Nat.ofDigitChars 10 text 0)

/-- Reading a numeral gives back the number it was written for. -/
@[simp]
theorem readDecimal?_decimal (number : Nat) : readDecimal? (decimal number) = some number := by
  have nonempty : (Nat.toDigits 10 number).isEmpty = false := by
    simp [Nat.toDigits_ne_nil]
  have digits : (Nat.toDigits 10 number).all Char.isDigit = true := by
    rw [List.all_eq_true]
    intro character member
    exact Nat.isDigit_of_mem_toDigits (by decide) (by decide) member
  simp [readDecimal?, decimal, nonempty, digits, Nat.ofDigitChars_ten_toDigits]

/-- The value of a hexadecimal digit of either case. -/
def hexDigit? (character : Char) : Option Nat :=
  if character.isDigit then some (character.toNat - 0x30)
  else if 'a' ≤ character && character ≤ 'f' then some (character.toNat - 0x61 + 10)
  else if 'A' ≤ character && character ≤ 'F' then some (character.toNat - 0x41 + 10)
  else none

/-- The value of a nonempty text of hexadecimal digits; leading zeros are allowed. -/
def readHex? (text : List Char) : Option Nat :=
  if text.isEmpty then none
  else text.foldlM (fun value character => (hexDigit? character).map (16 * value + ·)) 0

/-- The hexadecimal numeral of a number in lower case, without leading zeros. -/
def hex (number : Nat) : List Char :=
  Nat.toDigits 16 number

/-- A numeral filled up with zeros in front to a given width. -/
def padZeros (width : Nat) (numeral : List Char) : List Char :=
  List.replicate (width - numeral.length) '0' ++ numeral

/-- The numeral of an integer, with a minus sign in front of a negative one. -/
def signedDecimal : Int → List Char
  | .ofNat number => decimal number
  | .negSucc predecessor => '-' :: decimal (predecessor + 1)

end MessageGen.Text
