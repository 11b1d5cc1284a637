import LoadScenario.Script.Quoted

/-!
# Test assignments

A test script reports a result by storing it in the table `tests` under the name of the test. The
stored expression runs to the first semicolon or line end that stands outside a literal, so a
semicolon in a quoted text does not cut it short. A literal that is never closed ends it too.
-/

namespace LoadScenario.Script

open Text

/-- One result stored into the table of tests. -/
structure Assignment where
  /-- The name of the test, escaped as it is written. -/
  name : String
  /-- The right-hand side without white space around it. -/
  expression : String
  deriving DecidableEq

/-- The longest expression at the start of a text, of which some characters belong to a literal
already read, and what follows it. -/
def expressionFrom : (skip : Nat) → List Char → List Char × List Char
  | _, [] => ([], [])
  | skip + 1, c :: cs =>
    let (inner, rest) := expressionFrom skip cs
    (c :: inner, rest)
  | 0, c :: cs =>
    if c = ';' || c = '\n' then
      ([], c :: cs)
    else
      match Quote.ofChar? c with
      | none =>
        let (inner, rest) := expressionFrom 0 cs
        (c :: inner, rest)
      | some q =>
        match literalBody q q.oneLine cs with
        | none => ([], c :: cs)
        | some (_, after) =>
          let (inner, rest) := expressionFrom (cs.length - after.length) cs
          (c :: inner, rest)

/-- The longest expression at the start of a text, and what follows it. -/
def expression (cs : List Char) : List Char × List Char := expressionFrom 0 cs

/-- Recognises an assignment into the table of tests. -/
def assignment : Recognizer Assignment := fun _ cs => do
  let cs ← expect "tests".toList cs
  let cs ← expect ['['] (skipBlank cs)
  let (name, cs) ← literal Quote.oneLine (skipBlank cs)
  let cs ← expect [']'] (skipBlank cs)
  let cs ← expect ['='] (skipBlank cs)
  let (right, cs) := expression (skipBlank cs)
  return (⟨String.ofList name, String.ofList (trim right)⟩, cs)

/-- The assignments in a script, in order. -/
def assignments (script : String) : List Assignment := findAll assignment script.toList

end LoadScenario.Script
