import MessageGen.Text.Numeral

/-!
# Strings of TOML

A basic string stands between double quotes and has escapes; a literal string stands
between single quotes and has none. Three quotes in front and behind make a string that
may go over several lines. The end of a string is found first, and then what stands
between the quotes is decoded character by character.
-/

namespace MessageGen.Toml

open Text

/-- Splits a text at the end of a basic string on one line. -/
def splitBasic? : List Char → Option (List Char × List Char)
  | [] => none
  | '"' :: rest => some ([], rest)
  | '\n' :: _ => none
  | '\\' :: escaped :: rest =>
    (splitBasic? rest).map fun (body, after) => ('\\' :: escaped :: body, after)
  | character :: rest => (splitBasic? rest).map fun (body, after) => (character :: body, after)

/-- Splits a text at the end of a literal string on one line. -/
def splitLiteral? (text : List Char) : Option (List Char × List Char) :=
  match text.dropWhile fun character => character != '\'' && character != '\n' with
  | '\'' :: rest =>
    some (text.takeWhile fun character => character != '\'' && character != '\n', rest)
  | _ => none

/-- Up to two quotes behind a closing mark belong to the string, and then the mark ends it. -/
def splitExtraQuotes (quote : Char) : List Char → List Char × List Char
  | first :: second :: rest =>
    if first = quote ∧ second = quote then ([quote, quote], rest)
    else if first = quote then ([quote], second :: rest)
    else ([], first :: second :: rest)
  | [only] => if only = quote then ([quote], []) else ([], [only])
  | [] => ([], [])

/-- Splits a text at the end of a string between three quotes. -/
def splitMultiline? (quote : Char) (hasEscapes : Bool) : List Char → Option (List Char × List Char)
  | first :: second :: third :: rest =>
    if first = quote ∧ second = quote ∧ third = quote then some (splitExtraQuotes quote rest)
    else if hasEscapes ∧ first = '\\' then
      (splitMultiline? quote hasEscapes (third :: rest)).map fun (body, after) =>
        (first :: second :: body, after)
    else
      (splitMultiline? quote hasEscapes (second :: third :: rest)).map fun (body, after) =>
        (first :: body, after)
  | _ => none

/-- Removes a line feed in front of a text. -/
def dropFirstLineFeed : List Char → List Char
  | '\r' :: '\n' :: rest => rest
  | '\n' :: rest => rest
  | text => text

/-- Where the decoding of a basic string stands. -/
inductive EscapeState where
  /-- Outside an escape. -/
  | plain
  /-- Behind a backslash. -/
  | escape
  /-- Inside a code point, with digits left and the value so far. -/
  | codePoint (left value : Nat)
  /-- Behind a backslash at the end of a line, before or after the line feed. -/
  | lineEnd (passed : Bool)
  deriving DecidableEq, Repr

/-- The character of an escape of one letter. -/
def escapedCharacter? : Char → Option Char
  | 'b' => some '\x08'
  | 't' => some '\t'
  | 'n' => some '\n'
  | 'f' => some '\x0c'
  | 'r' => some '\r'
  | 'e' => some '\x1b'
  | '"' => some '"'
  | '\\' => some '\\'
  | _ => none

/-- The number of digits of an escape for a code point. -/
def codePointDigits? : Char → Option Nat
  | 'x' => some 2
  | 'u' => some 4
  | 'U' => some 8
  | _ => none

/-- Whether a character is a blank or ends a line. -/
def isSpace (character : Char) : Bool :=
  character == ' ' || character == '\t' || character == '\r' || character == '\n'

/-- Decodes one character outside an escape. -/
def decodePlain (decoded : List Char) (character : Char) : EscapeState × List Char :=
  if character = '\\' then (.escape, decoded) else (.plain, character :: decoded)

/-- Decodes one character; what was decoded so far stands in reverse order. -/
def decodeCharacter? (isMultiline : Bool) (state : EscapeState × List Char) (character : Char) :
    Option (EscapeState × List Char) :=
  let decoded := state.2
  match state.1 with
  | .plain => some (decodePlain decoded character)
  | .escape =>
    match escapedCharacter? character, codePointDigits? character with
    | some escaped, _ => some (.plain, escaped :: decoded)
    | none, some digits => some (.codePoint digits 0, decoded)
    | none, none =>
      if isMultiline && isSpace character then some (.lineEnd (character == '\n'), decoded)
      else none
  | .codePoint left value =>
    match hexDigit? character with
    | none => none
    | some digit =>
      let value := 16 * value + digit
      if 1 < left then some (.codePoint (left - 1) value, decoded)
      else if value.isValidChar then some (.plain, Char.ofNat value :: decoded)
      else none
  | .lineEnd passed =>
    if isSpace character then some (.lineEnd (passed || character == '\n'), decoded)
    else if passed then some (decodePlain decoded character)
    else none

/-- Decodes what stands between the quotes of a basic string. -/
def decodeBasic? (isMultiline : Bool) (body : List Char) : Option String :=
  match body.foldlM (decodeCharacter? isMultiline) (.plain, []) with
  | some (.plain, decoded) | some (.lineEnd true, decoded) =>
    some (String.ofList decoded.reverse)
  | _ => none

/-- Takes a string on one line from the front of a text, as keys may be. -/
def readOneLine? : List Char → Option (String × List Char)
  | '"' :: rest => do
    let (body, after) ← splitBasic? rest
    return (← decodeBasic? false body, after)
  | '\'' :: rest => do
    let (body, after) ← splitLiteral? rest
    return (String.ofList body, after)
  | _ => none

/-- Takes a string of any form from the front of a text. -/
def readString? : List Char → Option (String × List Char)
  | '"' :: '"' :: '"' :: rest => do
    let (body, after) ← splitMultiline? '"' true (dropFirstLineFeed rest)
    return (← decodeBasic? true body, after)
  | '\'' :: '\'' :: '\'' :: rest => do
    let (body, after) ← splitMultiline? '\'' false (dropFirstLineFeed rest)
    return (String.ofList body, after)
  | text => readOneLine? text

end MessageGen.Toml
