import MessageGen.Text.CaseTable

/-!
# Upper and lower case

Single characters are mapped with the full mappings of Unicode, so that one letter
may become several. Package names are lowered in ASCII only, which is a mapping of
its own.
-/

namespace MessageGen.Text

/-- Whether a code point is one of those that the run lists. -/
def CaseRun.contains (run : CaseRun) (codePoint : Nat) : Bool :=
  run.first ≤ codePoint && codePoint ≤ run.last && (codePoint - run.first) % run.step == 0

/-- Maps a character by a table: a listed sequence, else a run, else itself. -/
def mapCase (runs : List CaseRun) (sequences : List (Nat × List Nat)) (character : Char) :
    List Char :=
  match sequences.lookup character.toNat with
  | some sequence => sequence.map Char.ofNat
  | none =>
    match runs.find? (·.contains character.toNat) with
    | some run => [Char.ofNat (character.toNat + run.shift).toNat]
    | none => [character]

/-- The upper-case mapping of a character. -/
def upperCase (character : Char) : List Char :=
  mapCase upperRuns upperSequences character

/-- The lower-case mapping of a character. -/
def lowerCase (character : Char) : List Char :=
  mapCase lowerRuns lowerSequences character

/-- Capital ASCII letters made small; every other character is kept. -/
def lowerAscii (text : List Char) : List Char :=
  text.map Char.toLower

example : upperCase 'ß' = ['S', 'S'] ∧ lowerCase 'İ' = ['i', '\u0307'] ∧ lowerCase 'Σ' = ['σ'] := by
  decide +kernel

end MessageGen.Text
