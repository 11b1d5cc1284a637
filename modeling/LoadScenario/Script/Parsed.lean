import LoadScenario.Text.Character
import LoadScenario.Text.Search

/-!
# Members of the parsed response

A script that parses the response body into a variable and later reads a member of that variable
says where the member is in the body. So the place of a value can be inferred from the script: the
value must be a member access, and an assignment of the parsed body to the same variable must
stand before it.
-/

namespace LoadScenario.Script

open Text

/-- Whether a character may start the name of a variable. -/
def startsName (c : Char) : Bool := c.isAlpha || c = '_' || c = '$'

/-- Whether a character may stand in the name of a variable. -/
def inName (c : Char) : Bool := isWord c || c = '$'

/-- Whether a character may stand in a chain of member accesses. -/
def inMemberPath (c : Char) : Bool := isWord c || c = '$' || c = '.' || c = '[' || c = ']'

/-- The variable and the chain of members that a value reads, if it is nothing but that. -/
def memberAccess? (value : List Char) : Option (List Char × List Char) := do
  let cs := skipBlank value
  let start ← cs.head?
  if !startsName start then
    none
  let variableName := cs.takeWhile inName
  let cs ← expect ['.'] (cs.dropWhile inName)
  let path := cs.takeWhile inMemberPath
  if path.isEmpty || !(skipBlank (cs.dropWhile inMemberPath)).isEmpty then
    none
  return (variableName, path)

/-- Recognises the assignment of the parsed response body to a variable. The name must not be the
end of a longer name or a member of something else. -/
def parsedInto (variableName : List Char) : Recognizer Unit := fun previous cs => do
  let cs ← expect variableName cs
  if previous.any fun c => inName c || c = '.' then
    none
  let cs ← expect ['='] (skipBlank cs)
  let cs ← expect "JSON.parse(".toList (skipBlank cs)
  let cs ← expect "responseBody".toList (skipBlank cs)
  let cs ← expect [')'] (skipBlank cs)
  return ((), cs)

/-- The place in the response body that a value reads, given the script before it. -/
def inferPath? (before value : List Char) : Option String := do
  let (variableName, path) ← memberAccess? value
  if occursIn (parsedInto variableName) before then some (String.ofList path) else none

/-- The place in the response body that a value reads at a distance in bytes from the start of the
script; none if no character of the script starts or ends there. -/
def inferredPath? (script value : String) (offset : Nat) : Option String :=
  (takeBytes? offset script.toList).bind fun before => inferPath? before value.toList

end LoadScenario.Script
