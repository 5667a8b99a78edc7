/-!
# Descriptions of classes

A description says what a class holds without saying how it is written: its package
and base class, its imports, its members with their initial values, the statements of
its constructor and its methods. `ClassDescription.source` writes it out.
-/

namespace MessageGen

/-- A member of a class. -/
structure Member where
  name : String
  type : String
  initialValue : String
  docs : List String
  deriving DecidableEq, Repr, Inhabited

/-- A parameter of a method. -/
structure Parameter where
  type : String
  name : String
  deriving DecidableEq, Repr, Inhabited

/-- A method of a class. -/
structure Method where
  name : String
  /-- The type of the result, or `void`. -/
  returnType : String
  parameters : List Parameter
  body : List String
  docs : List String
  /-- Whether the method overrides one of the base class. -/
  isOverride : Bool
  deriving DecidableEq, Repr, Inhabited

/-- A method whose body returns an expression. -/
def Method.returning (name returnType expression : String) : Method where
  name := name
  returnType := returnType
  parameters := []
  body := ["return " ++ expression ++ ";"]
  docs := []
  isOverride := false

/-- Adds a name to a list of names in ascending order, unless it is there. -/
def insertName (name : String) : List String → List String
  | [] => [name]
  | other :: rest =>
    if name < other then name :: other :: rest
    else if name = other then other :: rest
    else other :: insertName name rest

/-- The names of a list in ascending order, each once. -/
def sortNames (names : List String) : List String :=
  names.foldl (fun sorted name => insertName name sorted) []

/-- A class. -/
structure ClassDescription where
  package : String
  name : String
  baseClass : String
  /-- The imported classes, in ascending order and each once. -/
  imports : List String
  docs : List String
  members : List Member
  /-- The statements of the constructor; one may have several lines. -/
  constructor : List String
  methods : List Method
  deriving DecidableEq, Repr, Inhabited

namespace ClassDescription

/-- The first method of a name. -/
def method? (description : ClassDescription) (name : String) : Option Method :=
  description.methods.find? (·.name == name)

/-- The first member of a name. -/
def member? (description : ClassDescription) (name : String) : Option Member :=
  description.members.find? (·.name == name)

end ClassDescription

end MessageGen
