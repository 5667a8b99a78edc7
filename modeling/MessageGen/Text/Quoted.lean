import MessageGen.Text.HiddenTable
import MessageGen.Text.Numeral

/-!
# Texts quoted in messages

A message about an unexpected value shows a text between double quotes, with the
quote, the backslash and whatever does not show on a screen written as escapes.
-/

namespace MessageGen.Text

/-- Whether a character does not show by itself. -/
def isHidden (character : Char) : Bool :=
  hiddenRanges.any fun (first, last) => first ≤ character.toNat && character.toNat ≤ last

/-- A character as it stands inside a quoted text. -/
def quotedCharacter (character : Char) : List Char :=
  match character with
  | '\x00' => ['\\', '0']
  | '\t' => ['\\', 't']
  | '\n' => ['\\', 'n']
  | '\r' => ['\\', 'r']
  | '"' => ['\\', '"']
  | '\\' => ['\\', '\\']
  | other => if isHidden other then ['\\', 'u', '\x7b'] ++ hex other.toNat ++ ['\x7d'] else [other]

/-- A text between double quotes, with escapes. -/
def quoted (text : List Char) : List Char :=
  '"' :: text.flatMap quotedCharacter ++ ['"']

example : quoted "a\"é\u200b".toList = "\"a\\\"é\\u\x7b200b\x7d\"".toList := by
  decide +kernel

end MessageGen.Text
