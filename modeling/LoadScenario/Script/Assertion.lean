import LoadScenario.Text.Character
import LoadScenario.Script.Assignment

/-!
# Assertions on a response

Two idioms in the right-hand side of a test assignment say something about the response that a
load test can check as well: a comparison of the status code with a number, and a call that asks
whether the body holds a text. Whatever else an expression computes is not looked at, and what
stands outside an assignment is no assertion.
-/

namespace LoadScenario.Script

open Text

/-- What a script says about the status code. -/
inductive StatusComparison where
  | is (code : Nat)
  | isNot (code : Nat)
  deriving DecidableEq

/-- The signs that compare, each with what a comparison by it says. The longer of two signs that
start alike comes first. -/
def comparisonSigns : List (List Char × (Nat → StatusComparison)) :=
  [("===".toList, .is), ("==".toList, .is), ("!==".toList, .isNot), ("!=".toList, .isNot)]

/-- Reads a number of two or three digits behind which no word goes on. -/
def statusDigits (cs : List Char) : Option (List Char × List Char) :=
  let digits := cs.takeWhile isDigit
  let rest := cs.dropWhile isDigit
  if (digits.length = 2 ∨ digits.length = 3) ∧ ¬ isWord? rest.head? then some (digits, rest)
  else none

/-- Recognises a comparison of the status code. The answer is empty if the digits are not ASCII. -/
def statusComparison : Recognizer (Option StatusComparison) := fun _ cs => do
  let cs ← expect "responseCode.code".toList cs
  let cs := skipBlank cs
  comparisonSigns.findSome? fun (sign, assertion) => do
    let cs ← expect sign cs
    let (digits, cs) ← statusDigits (skipBlank cs)
    return ((decimal? digits).map assertion, cs)

/-- Recognises a call that asks whether the body holds a text; the answer is that text. -/
def bodySearch : Recognizer String := fun _ cs => do
  let cs ← expect "responseBody.has".toList cs
  let cs ← expect ['('] (skipBlank cs)
  let (body, cs) ← literal anyLine (skipBlank cs)
  let cs ← expect [')'] (skipBlank cs)
  return (String.ofList (withoutEscapes body), cs)

/-- What a script says about the status code, in order. -/
def statusComparisons (script : String) : List StatusComparison :=
  (assignments script).flatMap fun a =>
    (findAll statusComparison a.expression.toList).filterMap id

/-- The texts that a script looks for in the body, in order. -/
def bodySearches (script : String) : List String :=
  (assignments script).flatMap fun a => findAll bodySearch a.expression.toList

end LoadScenario.Script
