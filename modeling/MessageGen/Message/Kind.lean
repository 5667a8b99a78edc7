import MessageGen.Message.Name

/-!
# Kinds of messages

A schema declares a message as a request, a response or a header. There are two
headers, told apart by their names. The kind fixes the base class of the message and
whether it carries an API key.
-/

namespace MessageGen

/-- The kinds of messages. -/
inductive MessageKind where
  | request
  | response
  /-- The header in front of every request. -/
  | requestHeader
  /-- The header in front of every response. -/
  | responseHeader
  deriving DecidableEq, Repr, Inhabited

namespace MessageKind

/-- The kind of a message with a name and a declared type. -/
def ofDeclaration (name declared : String) : Except GenerationError MessageKind :=
  if declared = "request" then .ok .request
  else if declared = "response" then .ok .response
  else if declared = "header" then
    if name = "RequestHeader" then .ok .requestHeader
    else if name = "ResponseHeader" then .ok .responseHeader
    else .error (.invalidName name)
  else .error (.unknownMessageKind declared)

/-- The kind and the parts of the name of a message; a wrong name is found first. -/
def resolve (name declared : String) : Except GenerationError (MessageKind × MessageName) := do
  let resolved ← MessageName.resolve name
  let kind ← ofDeclaration name declared
  return (kind, resolved)

/-- The class that classes of messages of a kind extend. -/
def baseClass : MessageKind → String
  | .request => "AbstractRequest"
  | .response => "AbstractResponse"
  | .requestHeader => "AbstractRequestHeader"
  | .responseHeader => "AbstractResponseHeader"

/-- Whether messages of a kind are headers. -/
def isHeader : MessageKind → Bool
  | .requestHeader | .responseHeader => true
  | .request | .response => false

/-- Whether messages of a kind carry an API key. -/
def hasApiKey : MessageKind → Bool
  | .request | .response => true
  | .requestHeader | .responseHeader => false

/-- A kind in words. -/
def description : MessageKind → String
  | .request => "request"
  | .response => "response"
  | .requestHeader => "request header"
  | .responseHeader => "response header"

end MessageKind

end MessageGen
