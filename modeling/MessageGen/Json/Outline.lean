import MessageGen.Json.Scan

/-!
# Outlines of JSON texts

An outline is what can be read of a text from its front up to its first fault. Whatever
encloses the fault is left open and remembers it. A reader that walks an outline in
the order of the text thus meets a wrong shape and the end of the readable part in the
order in which they stand, and a part it has no use for costs one look at its ending.

Reading is one loop over the text with the open arrays and objects on a stack, so
nesting is not limited here; a reader of values has a limit of its own.
-/

namespace MessageGen.Json

/-- How an array or object ends. -/
inductive Ending where
  /-- With its closing bracket. -/
  | closed
  /-- With a fault, before its closing bracket. -/
  | broken (fault : Fault)
  deriving DecidableEq, Repr, Inhabited

/-- What can be read of a value. A string or a name without a value is unreadable. -/
inductive Outline where
  | null
  | boolean (value : Bool)
  | number (value : JsonNumber)
  | string (text : String)
  /-- A number out of range, or a string with half of a surrogate pair. -/
  | unreadable
  /-- The items of a list up to its ending. -/
  | array (items : List Outline) (ending : Ending)
  /-- The entries of an object up to its ending. -/
  | object (entries : List (Option String × Outline)) (ending : Ending)
  /-- A fault where a value should stand. -/
  | missing (fault : Fault)
  deriving Inhabited

/-- An open array or object, with its parts so far in reverse order. -/
inductive Frame where
  /-- An array. -/
  | array (before : List Outline)
  /-- An object, with the name of the entry whose value comes next. -/
  | object (before : List (Option String × Outline)) (name : Option String)

namespace Frame

/-- The array or object that a frame becomes when its ending follows a value. -/
def finish (frame : Frame) (value : Outline) (ending : Ending) : Outline :=
  match frame with
  | .array before => .array (value :: before).reverse ending
  | .object before name => .object ((name, value) :: before).reverse ending

end Frame

/-- Leaves every open array and object with a fault after a value. -/
def abandon (fault : Fault) (value : Outline) : List Frame → Outline
  | [] => value
  | frame :: stack => abandon fault (frame.finish value (.broken fault)) stack

/-- The first character of a text that is no blank, and the text after it. -/
def next? (text : List Char) : Option (Char × List Char) :=
  match skipSpaces text with
  | [] => none
  | first :: rest => some (first, rest)

theorem next?_length {text rest : List Char} {first : Char}
    (found : next? text = some (first, rest)) : rest.length < text.length := by
  unfold next? at found
  split at found
  · simp at found
  · rename_i skipped
    have shorter := length_skipSpaces_le text
    simp only [Option.some.injEq, Prod.mk.injEq] at found
    rw [skipped, List.length_cons, found.2] at shorter
    omega

/-- Gives the value of a scanned text its place in an outline. -/
def Scan.outline {α : Type} (outline : α → Outline) : Scan α → Scan Outline
  | .done value rest => .done (outline value) rest
  | .failed fault => .failed fault

theorem Scan.outline_eq_done {α : Type} {outline : α → Outline} {scan : Scan α}
    {value : Outline} {rest : List Char} (scanned : scan.outline outline = .done value rest) :
    ∃ inner, scan = .done inner rest := by
  cases scan with
  | done inner innerRest =>
    simp only [Scan.outline, Scan.done.injEq] at scanned
    exact ⟨inner, by rw [scanned.2]⟩
  | failed fault => simp [Scan.outline] at scanned

/-- A word, number or string from its first character on. -/
def scanScalar (first : Char) (rest : List Char) : Scan Outline :=
  if first = '"' then
    (scanString rest [] true).outline fun text? => text?.elim .unreadable .string
  else if first = 'n' then (scanWord ['u', 'l', 'l'] rest).outline fun _ => .null
  else if first = 't' then (scanWord ['r', 'u', 'e'] rest).outline fun _ => .boolean true
  else if first = 'f' then (scanWord ['a', 'l', 's', 'e'] rest).outline fun _ => .boolean false
  else if first = '-' ∨ first.isDigit then
    (scanNumber (first :: rest)).outline fun parts => parts.value?.elim .unreadable .number
  else .failed .malformed

theorem scanScalar_length {first : Char} {text rest : List Char} {value : Outline}
    (scanned : scanScalar first text = .done value rest) : rest.length ≤ text.length := by
  unfold scanScalar at scanned
  split at scanned
  · obtain ⟨_, inner⟩ := Scan.outline_eq_done scanned
    exact Nat.le_of_lt (scanString_length inner)
  split at scanned
  · obtain ⟨_, inner⟩ := Scan.outline_eq_done scanned
    exact scanWord_length inner
  split at scanned
  · obtain ⟨_, inner⟩ := Scan.outline_eq_done scanned
    exact scanWord_length inner
  split at scanned
  · obtain ⟨_, inner⟩ := Scan.outline_eq_done scanned
    exact scanWord_length inner
  split at scanned
  · obtain ⟨_, inner⟩ := Scan.outline_eq_done scanned
    have := scanNumber_length inner
    simp only [List.length_cons] at this
    omega
  · simp at scanned

/-- Takes the name of an entry from the front of a text. -/
def scanName (text : List Char) : Scan (Option String) :=
  match next? text with
  | none => .failed .truncated
  | some (first, rest) => if first = '"' then scanString rest [] true else .failed .malformed

theorem scanName_length {text rest : List Char} {name : Option String}
    (scanned : scanName text = .done name rest) : rest.length < text.length := by
  unfold scanName at scanned
  split at scanned
  · simp at scanned
  · rename_i found
    have := next?_length found
    split at scanned
    · have := scanString_length scanned
      omega
    · simp at scanned

/-- Takes the colon after a name from the front of a text. -/
def scanColon (text : List Char) : Scan Unit :=
  match next? text with
  | none => .failed .truncated
  | some (first, rest) => if first = ':' then .done () rest else .failed .malformed

theorem scanColon_length {text rest : List Char} {value : Unit}
    (scanned : scanColon text = .done value rest) : rest.length < text.length := by
  unfold scanColon at scanned
  split at scanned
  · simp at scanned
  · rename_i found
    have := next?_length found
    split at scanned
    · simp only [Scan.done.injEq] at scanned
      rw [← scanned.2]
      exact this
    · simp at scanned

/-- What the loop does next. -/
inductive Task where
  /-- Read a value. -/
  | value
  /-- Read the name of an entry, after the entries so far in reverse order. -/
  | name (before : List (Option String × Outline))
  /-- Put a value that was read in its place. -/
  | place (value : Outline)

/--
Reads on from a task, with the innermost open array or object on top of the stack. The
result is the outline of the whole value and the text after it; after a fault no text
is left.
-/
def readOn (task : Task) (stack : List Frame) (text : List Char) : Outline × List Char :=
  match task with
  | .value =>
    match _found : next? text with
    | none => (abandon .truncated (.missing .truncated) stack, [])
    | some (first, rest) =>
      if first = '[' then
        match _inside : next? rest with
        | none => (abandon .truncated (.array [] (.broken .truncated)) stack, [])
        | some (second, afterSecond) =>
          if second = ']' then readOn (.place (.array [] .closed)) stack afterSecond
          else readOn .value (.array [] :: stack) rest
      else if first = '\x7b' then
        match _inside : next? rest with
        | none => (abandon .truncated (.object [] (.broken .truncated)) stack, [])
        | some (second, afterSecond) =>
          if second = '\x7d' then readOn (.place (.object [] .closed)) stack afterSecond
          else readOn (.name []) stack rest
      else
        match _scanned : scanScalar first rest with
        | .done value rest => readOn (.place value) stack rest
        | .failed fault => (abandon fault (.missing fault) stack, [])
  | .name before =>
    match _nameScanned : scanName text with
    | .failed fault => (abandon fault (.object before.reverse (.broken fault)) stack, [])
    | .done name rest =>
      match _colonScanned : scanColon rest with
      | .failed fault =>
        (abandon fault ((Frame.object before name).finish (.missing fault) (.broken fault)) stack,
          [])
      | .done _ rest => readOn .value (.object before name :: stack) rest
  | .place value =>
    match stack with
    | [] => (value, text)
    | frame :: stack =>
      match _found : next? text with
      | none => (abandon .truncated (frame.finish value (.broken .truncated)) stack, [])
      | some (first, rest) =>
        match frame with
        | .array before =>
          if first = ',' then readOn .value (.array (value :: before) :: stack) rest
          else if first = ']' then
            readOn (.place ((Frame.array before).finish value .closed)) stack rest
          else
            (abandon .malformed ((Frame.array before).finish value (.broken .malformed)) stack, [])
        | .object before name =>
          if first = ',' then readOn (.name ((name, value) :: before)) stack rest
          else if first = '\x7d' then
            readOn (.place ((Frame.object before name).finish value .closed)) stack rest
          else
            (abandon .malformed
                ((Frame.object before name).finish value (.broken .malformed)) stack,
              [])
termination_by text.length
decreasing_by
  · have := next?_length _found
    have := next?_length _inside
    omega
  · exact next?_length _found
  · have := next?_length _found
    have := next?_length _inside
    omega
  · exact next?_length _found
  · have := next?_length _found
    have := scanScalar_length _scanned
    omega
  · have := scanName_length _nameScanned
    have := scanColon_length _colonScanned
    omega
  all_goals exact next?_length _found

/-- The outline of the value at the front of a text, and the text after it. -/
def Outline.ofText (text : List Char) : Outline × List Char :=
  readOn .value [] text

end MessageGen.Json
