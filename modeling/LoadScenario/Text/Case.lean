import LoadScenario.Text.Case.Table

/-!
# Letter case

Request methods are written in lower case into a scenario and in upper case into a listing, and a
method name is free text. Both maps are the full ones of the Unicode standard, so a letter may
become several, and a capital sigma at the end of a word becomes the final small sigma.
-/

namespace LoadScenario.Text

/-- Where a run sends a code point that it holds. -/
def CaseRun.image? (run : CaseRun) (n : Nat) : Option Nat :=
  if run.first ≤ n ∧ n ≤ run.last ∧ (n - run.first) % run.step = 0 then
    some (run.target + (n - run.first))
  else
    none

/-- A case map of single characters, given by its runs and its expansions. -/
def mapCase (runs : List CaseRun) (expansions : List (Nat × List Nat)) (c : Char) : List Char :=
  match expansions.lookup c.toNat with
  | some ns => ns.map Char.ofNat
  | none =>
    match runs.findSome? (·.image? c.toNat) with
    | some n => [Char.ofNat n]
    | none => [c]

/-- Whether a character has a case. -/
def isCased (c : Char) : Bool := casedRanges.contains c.toNat

/-- Whether a search for a cased character passes over this one. -/
def isCaseIgnorable (c : Char) : Bool := caseIgnorableRanges.contains c.toNat

/-- Whether the first character that counts for case is a letter with a case. -/
def meetsCased (cs : List Char) : Bool := (cs.dropWhile isCaseIgnorable).head?.any isCased

/-- Greek capital sigma. -/
def capitalSigma : Char := '\u03a3'

/-- The lower case of a capital sigma: final if a cased letter precedes it and none follows. -/
def lowerSigma (before after : List Char) : Char :=
  if meetsCased before && !meetsCased after then '\u03c2' else '\u03c3'

/-- Lower case of a text, given in reverse what precedes it. -/
def lowercaseAfter : List Char → List Char → List Char
  | _, [] => []
  | before, c :: cs =>
    let lower :=
      if c = capitalSigma then [lowerSigma before cs] else mapCase lowerRuns lowerExpansions c
    lower ++ lowercaseAfter (c :: before) cs

/-- A text in lower case. -/
def lowercase (s : String) : String := String.ofList (lowercaseAfter [] s.toList)

/-- A text in upper case. -/
def uppercase (s : String) : String :=
  String.ofList (s.toList.flatMap (mapCase upperRuns upperExpansions))

end LoadScenario.Text
