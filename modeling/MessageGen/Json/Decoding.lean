import MessageGen.Json.Outline

/-!
# Reading values from outlines

A reader takes an outline to a value of its type, or to the first problem in the order
of the text. Records are read by their shape, which names their fields in order: a
record may be written as an object, whose unknown entries are passed over, or as the
list of its fields.

Values that are read may nest up to a limit, so every reader that enters an array or an
object is told how many levels are left.
-/

namespace MessageGen.Json

/-- How many arrays and objects a value that is read may have around one another. -/
def nestingLimit : Nat := 127

/-- The problem of a fault where a value is wanted. -/
def Fault.problem (fault : Fault) : Problem :=
  .illFormed fault.wanted

/-- The problem of a character that cannot stand where it does. -/
def malformed : Problem :=
  .illFormed .malformed

/-- Succeeds if an array or object was closed. -/
def Ending.check : Ending → Except Problem Unit
  | .closed => .ok ()
  | .broken fault => .error fault.problem

namespace Outline

/-- The problem of a value that stands where another kind of value is wanted. -/
def unexpected (outline : Outline) (expected : String) : Problem :=
  match outline with
  | .null => .mismatch (.wrongType .null expected)
  | .boolean value => .mismatch (.wrongType (.boolean value) expected)
  | .number value => .mismatch (.wrongType (.number value) expected)
  | .string text => .mismatch (.wrongType (.string text) expected)
  | .unreadable => malformed
  | .array _ _ => .mismatch (.wrongType .sequence expected)
  | .object _ _ => .mismatch (.wrongType .map expected)
  | .missing fault => fault.problem

/-- Passes over a value that nobody wants. -/
def passOver : Outline → Except Problem Unit
  | .missing fault | .array _ (.broken fault) | .object _ (.broken fault) =>
    .error (.illFormed fault.passedOver)
  | _ => .ok ()

/-- Reads a string. -/
def readText : Outline → Except Problem String
  | .string text => .ok text
  | other => .error (other.unexpected "a string")

/-- Reads a truth value. -/
def readFlag : Outline → Except Problem Bool
  | .boolean value => .ok value
  | other => .error (other.unexpected "a boolean")

/-- Reads an integer between two bounds, under the name of its type. -/
def readInteger (least greatest : Int) (expected : String) : Outline → Except Problem Int
  | .number (.integer value) =>
    if least ≤ value ∧ value ≤ greatest then .ok value
    else .error (.mismatch (.wrongInteger value expected))
  | other => .error (other.unexpected expected)

/-- Reads a value that may be absent; `null` counts as absent. -/
def readOptional {α : Type} (read : Outline → Except Problem α) :
    Outline → Except Problem (Option α)
  | .null => .ok none
  | other => (read other).map some

/-- Reads the items of a list one after another, and then its ending. -/
def readItems {α : Type} (read : Outline → Except Problem α) (items : List Outline)
    (ending : Ending) : Except Problem (List α) := do
  let values ← items.mapM read
  ending.check
  return values

/-- Reads a list whose items have a level less of nesting left. -/
def readList {α : Type} (depth : Nat) (read : Nat → Outline → Except Problem α) :
    Outline → Except Problem (List α)
  | .array items ending =>
    match depth with
    | 0 => .error malformed
    | depth + 1 => readItems (read depth) items ending
  | other => .error (other.unexpected "a sequence")

end Outline

/-! ## Records -/

/-- A field of a record. -/
structure Slot (α : Type) where
  name : String
  required : Bool
  /-- Reads the field into a record. -/
  read : α → Outline → Except Problem α

/-- A field that is read on its own and then put into the record. -/
def Slot.of {α β : Type} (name : String) (required : Bool)
    (read : Outline → Except Problem β) (put : α → β → α) : Slot α :=
  ⟨name, required, fun record outline => (read outline).map (put record)⟩

/-- How a record is read: its name, its fields in order, and the record without any. -/
structure Shape (α : Type) where
  /-- The name of the record in messages. -/
  title : String
  /-- The record before any field is read. -/
  blank : α
  /-- The fields in order. -/
  slots : List (Slot α)

namespace Shape

variable {α : Type}

/-- Reads an entry of an object into a record; the names read so far come along. -/
def readEntry (shape : Shape α) (state : α × List String) (entry : Option String × Outline) :
    Except Problem (α × List String) :=
  match entry with
  | (none, _) => .error malformed
  | (some name, outline) =>
    match shape.slots.find? (·.name == name) with
    | none => outline.passOver.map fun _ => state
    | some slot =>
      if state.2.contains name then .error (.mismatch (.duplicateField name))
      else (slot.read state.1 outline).map fun record => (record, name :: state.2)

/-- Reads a record from the entries of an object. -/
def readObject (shape : Shape α) (entries : List (Option String × Outline)) (ending : Ending) :
    Except Problem α := do
  let (record, seen) ← entries.foldlM shape.readEntry (shape.blank, [])
  ending.check
  match shape.slots.find? fun slot => slot.required && !seen.contains slot.name with
  | some slot => .error (.mismatch (.missingField slot.name))
  | none => .ok record

/-- Reads a record from the list of its fields; those at the end may be left out. -/
def readFields (shape : Shape α) (items : List Outline) (ending : Ending) :
    Except Problem α := do
  let record ← (shape.slots.zip items).foldlM (fun record (slot, item) => slot.read record item)
    shape.blank
  if shape.slots.length < items.length then .error malformed
  else
    ending.check
    match (shape.slots.drop items.length).findIdx? (·.required) with
    | some skipped =>
      .error (.mismatch (.wrongLength (items.length + skipped)
        (shape.title ++ " with " ++ toString shape.slots.length ++ " elements")))
    | none => .ok record

/-- Reads a record in either form, with a level of nesting left for it. -/
def read (shape : Shape α) (depth : Nat) : Outline → Except Problem α
  | .object entries ending =>
    if depth = 0 then .error malformed else shape.readObject entries ending
  | .array items ending => if depth = 0 then .error malformed else shape.readFields items ending
  | other => .error (other.unexpected shape.title)

end Shape

/-! ## Values -/

/-- Puts an entry among entries with ascending names; it replaces one of its name. -/
def insertEntry (name : String) (value : Json) : List (String × Json) → List (String × Json)
  | [] => [(name, value)]
  | (other, otherValue) :: rest =>
    if name < other then (name, value) :: (other, otherValue) :: rest
    else if name = other then (name, value) :: rest
    else (other, otherValue) :: insertEntry name value rest

/-- Reads any value. The entries of an object come in the order of their names. -/
def ofOutline : Nat → Outline → Except Problem Json
  | _, .null => .ok .null
  | _, .boolean value => .ok (.boolean value)
  | _, .number value => .ok (.number value)
  | _, .string text => .ok (.string text)
  | _, .unreadable => .error malformed
  | _, .missing fault => .error fault.problem
  | 0, .array _ _ | 0, .object _ _ => .error malformed
  | depth + 1, .array items ending =>
    (Outline.readItems (ofOutline depth) items ending).map .array
  | depth + 1, .object entries ending => do
    let readEntry := fun (before : List (String × Json)) (entry : Option String × Outline) =>
      match entry with
      | (none, _) => .error malformed
      | (some name, outline) =>
        (ofOutline depth outline).map fun value => insertEntry name value before
    let values ← entries.foldlM readEntry []
    ending.check
    return .object values

/-- Reads a whole text, with nothing but blanks after the value. -/
def readText {α : Type} (read : Outline → Except Problem α) (text : List Char) :
    Except Problem α := do
  let (outline, rest) := Outline.ofText text
  let value ← read outline
  if (skipSpaces rest).isEmpty then .ok value else .error malformed

/-- Reads a whole text as a value. -/
def parse (text : String) : Except Problem Json :=
  readText (ofOutline nestingLimit) text.toList

end MessageGen.Json
