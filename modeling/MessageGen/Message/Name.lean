import MessageGen.Error

/-!
# Message names

Every message name ends in `Request`, `Response` or `Header`, with something in front
of the suffix. The family of a message is the call that a request and its response
share; it is the name without the suffix. A header is a family of its own and keeps its
suffix.
-/

namespace MessageGen

/-- The suffix of a message name. -/
inductive NameSuffix where
  | request
  | response
  | header
  deriving DecidableEq, Repr, Inhabited

namespace NameSuffix

/-- The suffix as it is written. -/
def text : NameSuffix → String
  | .request => "Request"
  | .response => "Response"
  | .header => "Header"

/-- All suffixes. -/
def all : List NameSuffix :=
  [.request, .response, .header]

end NameSuffix

/-- A message name, taken apart. -/
structure MessageName where
  family : String
  /-- Whether the name is that of a header. -/
  isHeader : Bool
  deriving DecidableEq, Repr, Inhabited

/-- What stands in front of a suffix, if a text ends in it. -/
def stripSuffix? (suffix text : List Char) : Option (List Char) :=
  if suffix.isSuffixOf text then some (text.take (text.length - suffix.length)) else none

namespace MessageName

/-- Takes a name apart at a given suffix; there must be something in front of it. -/
def splitAt? (declared : String) (suffix : NameSuffix) : Option MessageName :=
  match stripSuffix? suffix.text.toList declared.toList with
  | none | some [] => none
  | some stem =>
    match suffix with
    | .header => some ⟨declared, true⟩
    | _ => some ⟨String.ofList stem, false⟩

/-- Takes a message name apart. -/
def resolve (declared : String) : Except GenerationError MessageName :=
  match NameSuffix.all.findSome? (splitAt? declared) with
  | some name => .ok name
  | none => .error (.invalidName declared)

end MessageName

end MessageGen
