import MessageGen.Toml.Value

/-!
# Building tables

Tables grow as a text is read, and the rules on what may be added keep each table to
one definition: a header may define a table once, keys with points may not reach into a
table that a header defined, and a table in braces is complete as it stands.
-/

namespace MessageGen.Toml

/-- A table that is being built. -/
structure OpenTable where
  origin : Origin
  /-- The named values so far. -/
  entries : Entries
  deriving Inhabited

namespace Entries

/-- The value of a name. -/
def find? (entries : Entries) (name : String) : Option Value :=
  List.lookup name entries

/-- Gives a name a value, in its place if the name is there and at the end otherwise. -/
def put (name : String) (value : Value) : Entries → Entries
  | [] => [(name, value)]
  | (other, otherValue) :: rest =>
    if other = name then (name, value) :: rest else (other, otherValue) :: put name value rest

/-- Removes a name. -/
def erase (entries : Entries) (name : String) : Entries :=
  entries.filter (·.1 != name)

end Entries

/-- Applies a change to the last element of a list. -/
def changeLast? {α : Type} (change : α → Option α) : List α → Option (List α)
  | [] => none
  | [last] => (change last).map ([·])
  | first :: rest => (changeLast? change rest).map (first :: ·)

namespace OpenTable

/--
Applies a change to the table at the end of a path, and makes the tables that are
missing on the way. A path of a key with points does not go through tables that headers
defined; no path goes through a table in braces or a value that is no table.
-/
def changeAt? (isDotted : Bool) (change : OpenTable → Option OpenTable) :
    List String → OpenTable → Option OpenTable
  | [], table => change table
  | name :: path, table =>
    let next := changeAt? isDotted change path
    match Entries.find? table.entries name with
    | none => do
      let made ← next ⟨if isDotted then .dotted else .implicit, []⟩
      return {
        table with entries := Entries.put name (.table made.origin made.entries) table.entries }
    | some (.tables elements) => do
      let inElement := fun (entries : Entries) => (next ⟨.header, entries⟩).map (·.entries)
      let changed ← changeLast? inElement elements
      return { table with entries := Entries.put name (.tables changed) table.entries }
    | some (.table .inPlace _) => none
    | some (.table origin entries) =>
      if isDotted ∧ origin = .header then none
      else do
        let changed ← next ⟨origin, entries⟩
        return { table with
          entries := Entries.put name (.table changed.origin changed.entries) table.entries }
    | some (.scalar _) | some (.array _) => none

/--
Adds a value under a key. A key with points makes its value part of tables that such
keys made, and a key without points does not.
-/
def insert? (table : OpenTable) (key : List String) (value : Value) : Option OpenTable :=
  match key.getLast? with
  | none => none
  | some name =>
    let path := key.dropLast
    let add := fun (parent : OpenTable) =>
      if (parent.origin == .dotted) == path.isEmpty then none
      else if (Entries.find? parent.entries name).isSome then none
      else some { parent with entries := parent.entries ++ [(name, value)] }
    changeAt? true add path table

end OpenTable

/-- A header: the key between its brackets, and whether it has two brackets. -/
structure Header where
  /-- The names of the tables around the new one. -/
  path : List String
  name : String
  /-- Whether the header adds to a list of tables. -/
  isElement : Bool
  deriving DecidableEq, Repr, Inhabited

/-- A text that is being read: the finished tables, and the table of the last header. -/
structure Builder where
  /-- The table of the whole text, without the table of the last header. -/
  root : OpenTable
  /-- The last header and its table. -/
  current : Option (Header × OpenTable)
  deriving Inhabited

namespace Builder

/-- The start of a text. -/
def start : Builder :=
  ⟨⟨.header, []⟩, none⟩

/-- Adds a value to the table of the last header. -/
def insert? (builder : Builder) (key : List String) (value : Value) : Option Builder :=
  match builder.current with
  | none => (builder.root.insert? key value).map fun root => { builder with root }
  | some (header, table) =>
    (table.insert? key value).map fun table => { builder with current := some (header, table) }

/-- Puts the table of the last header in its place. -/
def finish? (builder : Builder) : Option OpenTable :=
  match builder.current with
  | none => some builder.root
  | some (header, table) =>
    let place := fun (parent : OpenTable) =>
      match Entries.find? parent.entries header.name, header.isElement with
      | none, true =>
        some { parent with entries := parent.entries ++ [(header.name, .tables [table.entries])] }
      | some (.tables elements), true =>
        let elements := elements ++ [table.entries]
        some { parent with entries := Entries.put header.name (.tables elements) parent.entries }
      | none, false =>
        some { parent with
          entries := parent.entries ++ [(header.name, .table .header table.entries)] }
      | _, _ => none
    OpenTable.changeAt? false place header.path builder.root

/--
Starts the table of a header. A table that longer headers led through before is taken
up; any other value of its name stands in the way.
-/
def open? (builder : Builder) (header : Header) : Option Builder := do
  let root ← builder.finish?
  if header.isElement then return ⟨root, some (header, ⟨.header, []⟩)⟩
  let earlier ← earlierEntries? header.path root
  let remove := fun (parent : OpenTable) =>
    some { parent with entries := Entries.erase parent.entries header.name }
  let root ← OpenTable.changeAt? false remove header.path root
  return ⟨root, some (header, ⟨.header, earlier⟩)⟩
where
  /-- The values that the new table has from the start, unless something stands in its way. -/
  earlierEntries? (path : List String) (root : OpenTable) : Option Entries :=
    match tableAt path root.entries with
    | none => some []
    | some entries =>
      match Entries.find? entries header.name with
      | none => some []
      | some (.table .implicit earlier) => some earlier
      | some _ => none
  /-- The table at the end of a path, if it is there. -/
  tableAt : List String → Entries → Option Entries
    | [], entries => some entries
    | name :: path, entries =>
      match Entries.find? entries name with
      | some (.table _ inner) => tableAt path inner
      | some (.tables elements) => elements.getLast?.bind (tableAt path)
      | _ => none

end Builder

end MessageGen.Toml
