import LoadScenario.OrderedMap

/-!
# Requests of a scenario

A request as the scenario sends it: the placeholders have become references, the helper has become
an authentication, the body has become a file and the test script has become a list of checks.
-/

namespace LoadScenario

/-- The two ways in which a request can authenticate. -/
inductive AuthScheme where
  | basic
  | digest
  deriving DecidableEq

namespace AuthScheme

/-- The scheme that an authentication helper stands for. -/
def ofHelper? (helper : String) : Option AuthScheme :=
  if helper = "basicAuth" then some basic
  else if helper = "digestAuth" then some digest
  else none

/-- The method of a request builder that sets up the authentication. -/
def builder : AuthScheme → String
  | basic => "basicAuth"
  | digest => "digestAuth"

/-- The name of the scheme. -/
def name : AuthScheme → String
  | basic => "basic"
  | digest => "digest"

end AuthScheme

/-- How a request authenticates. -/
structure Auth where
  scheme : AuthScheme
  user : String
  password : String
  deriving DecidableEq

/-- The body of a request, which is sent from a file. -/
structure Body where
  filename : String
  /-- What the file is to hold; if nothing is said, the user provides the file. -/
  content : Option String
  deriving DecidableEq

/-- A value that is kept for later requests. -/
inductive Capture where
  /-- A constant. -/
  | literal (name value : String)
  /-- What stands at a place in the response body. -/
  | json (name path : String)
  deriving DecidableEq

/-- The variable that keeps the value. -/
def Capture.name : Capture → String
  | literal name _ | json name _ => name

/-- What is checked in a response, each list in the order of the script. -/
structure Checks where
  /-- The status codes that are right; no code if any is. -/
  status : List Nat
  /-- The status codes that are wrong. -/
  notStatus : List Nat
  /-- Patterns that the body must match. -/
  bodyHas : List String
  captures : List Capture
  deriving DecidableEq

namespace Checks

/-- Nothing to check. -/
def none : Checks := ⟨[], [], [], []⟩

/-- The number of checks; all right status codes together are one. -/
def count (c : Checks) : Nat :=
  (if c.status.isEmpty then 0 else 1) + c.notStatus.length + c.bodyHas.length + c.captures.length

/-- Whether there is nothing to check. -/
def isEmpty (c : Checks) : Bool :=
  c.status.isEmpty && c.notStatus.isEmpty && c.bodyHas.isEmpty && c.captures.isEmpty

end Checks

/-- A request as the scenario sends it. -/
structure Request where
  name : String
  method : String
  url : String
  auth : Option Auth
  headers : OrderedMap
  body : Option Body
  checks : Checks
  deriving DecidableEq

end LoadScenario
