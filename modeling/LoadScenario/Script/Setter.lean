import LoadScenario.Text.Character
import LoadScenario.Script.Quoted

/-!
# Variables that a script sets

A script keeps a value for later requests by a call that names a variable and gives the value. The
value is whatever stands before the first closing parenthesis on the line. A comment behind the
call may name the place of the value in the response body; white space, line ends among it, and
one semicolon may stand between the call and the comment.
-/

namespace LoadScenario.Script

open Text

/-- A call that sets a variable. -/
structure Setter where
  /-- The variable. -/
  name : String
  /-- The expression of the value, without white space around it. -/
  value : String
  /-- The place in the response body that the comment names. -/
  jsonPath : Option String
  deriving DecidableEq

/-- The functions that set a variable. -/
def setterFunctions : List (List Char) :=
  ["setEnvironmentVariable".toList, "setGlobalVariable".toList]

/-- The text behind the name of a setting function, which is either called on the object
`postman` or stands at the start of a word. -/
def setterCall (previous : Option Char) (cs : List Char) : Option (List Char) :=
  let function (cs : List Char) := setterFunctions.findSome? (expect · cs)
  match expect "postman.".toList cs with
  | some cs => function cs
  | none => if isWord? previous then none else function cs

/-- The text behind a quote of any kind. -/
def quoteMark : List Char → Option (List Char)
  | [] => none
  | c :: cs => (Quote.ofChar? c).map fun _ => cs

/-- The comment behind a call that names the place of the value, and the text behind it. -/
def pathComment (cs : List Char) : Option (List Char × List Char) := do
  let cs := skipBlank cs
  let cs := (expect [';'] cs).getD cs
  let cs ← expect "//".toList (skipBlank cs)
  let cs ← expect "JSONPath=".toList (skipBlank cs)
  return (cs.takeWhile (· ≠ '\n'), cs.dropWhile (· ≠ '\n'))

/-- A text without white space around it, if anything is left. -/
def nonBlank? (cs : List Char) : Option String :=
  if (trim cs).isEmpty then none else some (String.ofList (trim cs))

/-- Recognises a call that sets a variable. -/
def setter : Recognizer Setter := fun previous cs => do
  let cs ← setterCall previous cs
  let cs ← expect ['('] (skipBlank cs)
  let cs ← quoteMark (skipBlank cs)
  let name := String.ofList (cs.takeWhile isWord)
  let cs ← quoteMark (cs.dropWhile isWord)
  let cs ← expect [','] (skipBlank cs)
  let (value, cs) ← upTo [')'] (skipBlank cs)
  let value := String.ofList (trim value)
  match pathComment cs with
  | some (path, cs) => return (⟨name, value, nonBlank? path⟩, cs)
  | none => return (⟨name, value, none⟩, cs)

/-- The calls in a script that set a variable, in order, each with its distance in bytes from the
start of the script. -/
def setters (script : String) : List (Nat × Setter) :=
  locate 0 (pieces setter script.toList)

end LoadScenario.Script
