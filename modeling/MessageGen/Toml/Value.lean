import MessageGen.Number.Decimal

/-!
# TOML values

A TOML text gives a table of named values. How a table came about decides what may
still be added to it, so a table remembers its origin.
-/

namespace MessageGen.Toml

/-- A number with a fraction or an exponent, or one of the special numbers. -/
inductive Real where
  | finite (value : Binary64)
  | infinite (negative : Bool)
  /-- The result of an undefined operation. -/
  | undefined
  deriving DecidableEq, Repr, Inhabited

/-- A value without parts. -/
inductive Scalar where
  | string (text : String)
  | integer (value : Int)
  | real (value : Real)
  | boolean (value : Bool)
  /-- A date, a time or both, as it is written. -/
  | moment (text : String)
  deriving DecidableEq, Repr, Inhabited

/-- How a table came about. -/
inductive Origin where
  /-- By a longer header that leads through it. -/
  | implicit
  /-- By a header of its own, or as the table of the whole text. -/
  | header
  /-- By a key with points in it. -/
  | dotted
  /-- In place, between braces. -/
  | inPlace
  deriving DecidableEq, Repr, Inhabited

/-- A value of a TOML text. -/
inductive Value where
  | scalar (value : Scalar)
  | array (items : List Value)
  /-- A list of tables that headers with two brackets made. -/
  | tables (elements : List (List (String × Value)))
  /-- Named values. -/
  | table (origin : Origin) (entries : List (String × Value))
  deriving Inhabited

/-- The named values of a table. -/
abbrev Entries := List (String × Value)

end MessageGen.Toml
