import LoadScenario.Collection.Basic
import LoadScenario.Layout
import LoadScenario.Request.Basic
import LoadScenario.Request.Disposition
import LoadScenario.Request.Headers
import LoadScenario.Script.Assertion
import LoadScenario.Script.Parsed
import LoadScenario.Script.Setter
import LoadScenario.Text.Case
import LoadScenario.Warning

/-!
# From a recorded request to a request of a scenario

Each part of a recorded request is taken over on its own, and each answers with the warnings that
it gives rise to. The warnings of a request come in this order: those about the authentication
helper, about the body, and about the variables that its script sets.

The body of a response is checked against a regular expression. For a text to match as it is, every
character that could mean something else in an expression gets a backslash.
-/

namespace LoadScenario

open Text

/-- The helper that stands for no authentication. -/
def plainHelper : String := "normal"

/-- The file that a body is sent from if no header names it. -/
def unnamedBody : String := "YOUR_FILENAME_HERE"

/-- What a body that is written into a file is called after the name of its request. -/
def bodySuffix : String := "_stringbody.txt"

/-- The characters that mean something in a regular expression. -/
def patternSigns : List Char :=
  ['\\', '.', '+', '*', '?', '(', ')', '|', '[', ']', '\x7b', '\x7d', '^', '$', '#', '&', '-', '~']

/-- How a character is written in a pattern that matches it. -/
def patternChar (c : Char) : List Char := if patternSigns.contains c then ['\\', c] else [c]

/-- The pattern that matches exactly a text. -/
def patternOf (s : String) : String := String.ofList (s.toList.flatMap patternChar)

namespace RequestRecord

/-- The scheme that the helper of a request stands for. -/
def authScheme? (r : RequestRecord) : Option AuthScheme := r.helper.bind AuthScheme.ofHelper?

/-- How the request authenticates. Credentials that are left out are empty. -/
def auth? (r : RequestRecord) : Option Auth :=
  r.authScheme?.map fun scheme =>
    let credentials := r.credentials.getD ⟨"", ""⟩
    ⟨scheme, translate credentials.username, translate credentials.password⟩

/-- The warning about a helper that stands for something unknown. -/
def helperWarnings (r : RequestRecord) : List Warning :=
  match r.helper with
  | none => []
  | some helper =>
    if (AuthScheme.ofHelper? helper).isSome || helper = plainHelper then []
    else [.unsupportedHelper r.name helper]

/-- The headers of the request. -/
def headerMap (r : RequestRecord) : OrderedMap := headersOf r.headers r.auth?.isSome

/-- The body of the request. -/
def body? (r : RequestRecord) : Option Body :=
  r.bodyMode.bind fun mode =>
    if mode = "raw" then
      some ⟨safeName r.name ++ bodySuffix, r.rawBody.map translate⟩
    else if mode = "binary" then
      some ⟨(filenameFromHeaders? r.headerMap).getD unnamedBody, none⟩
    else
      none

theorem body?_raw {r : RequestRecord} (h : r.bodyMode = some "raw") :
    r.body? = some ⟨safeName r.name ++ bodySuffix, r.rawBody.map translate⟩ := by
  rw [body?, h, Option.bind_some, if_pos rfl]

theorem body?_binary {r : RequestRecord} (h : r.bodyMode = some "binary") :
    r.body? = some ⟨(filenameFromHeaders? r.headerMap).getD unnamedBody, none⟩ := by
  rw [body?, h, Option.bind_some, if_neg (by decide), if_pos rfl]

/-- There are no other bodies. -/
theorem body?_cases {r : RequestRecord} {b : Body} (h : r.body? = some b) :
    (r.bodyMode = some "raw" ∧
      b = ⟨safeName r.name ++ bodySuffix, r.rawBody.map translate⟩) ∨
    (r.bodyMode = some "binary" ∧
      b = ⟨(filenameFromHeaders? r.headerMap).getD unnamedBody, none⟩) := by
  obtain ⟨mode, hmode, hbody⟩ := Option.bind_eq_some_iff.mp h
  split at hbody
  next hraw => exact .inl ⟨by rw [hmode, hraw], (Option.some.inj hbody).symm⟩
  next =>
    split at hbody
    next hbinary => exact .inr ⟨by rw [hmode, hbinary], (Option.some.inj hbody).symm⟩
    next => cases hbody

/-- The warning about a body that is a form. -/
def bodyWarnings (r : RequestRecord) : List Warning :=
  match r.bodyMode with
  | none => []
  | some mode =>
    if mode = "params" || mode = "urlencoded" then [.unsupportedBody r.name mode] else []

/-- The script of the request; none is the same as an empty one. -/
def script (r : RequestRecord) : String := r.tests.getD ""

end RequestRecord

/-- The elements of a list without those that have come before. -/
def firstSeen (l : List Nat) : List Nat :=
  l.foldl (fun seen n => if seen.contains n then seen else seen ++ [n]) []

/-- The code that an assertion takes for right. -/
def Script.StatusComparison.right? : Script.StatusComparison → Option Nat
  | is code => some code
  | isNot _ => none

/-- The code that an assertion takes for wrong. -/
def Script.StatusComparison.wrong? : Script.StatusComparison → Option Nat
  | is _ => none
  | isNot code => some code

/-- A place in the body without the root it starts from. -/
def belowRoot : List Char → List Char
  | '$' :: '.' :: cs => belowRoot cs
  | cs => cs

/-- What a script keeps by setting a variable: the text if the value is a literal, else what stands
at the place that the comment names or that the script before the call lets infer. -/
def captureOf? (script : String) (offset : Nat) (s : Script.Setter) : Option Capture :=
  match Script.literalText? s.value with
  | some text => some (.literal s.name (translate text))
  | none =>
    (s.jsonPath.or (Script.inferredPath? script s.value offset)).map fun path =>
      .json s.name (String.ofList (belowRoot path.toList))

namespace RequestRecord

/-- The checks that the script of the request asks for. -/
def checks (r : RequestRecord) : Checks where
  status := firstSeen ((Script.statusComparisons r.script).filterMap (·.right?))
  notStatus := firstSeen ((Script.statusComparisons r.script).filterMap (·.wrong?))
  bodyHas := (Script.bodySearches r.script).map patternOf
  captures := (Script.setters r.script).filterMap fun (offset, s) => captureOf? r.script offset s

/-- The warnings about variables whose values cannot be told. -/
def scriptWarnings (r : RequestRecord) : List Warning :=
  (Script.setters r.script).filterMap fun (offset, s) =>
    match captureOf? r.script offset s with
    | some _ => none
    | none => some (.unreadableVariable r.name s.name)

/-- The request that the scenario sends. -/
def request (r : RequestRecord) : Request where
  name := r.name
  method := translate (lowercase r.method)
  url := translate r.url
  auth := r.auth?
  headers := r.headerMap
  body := r.body?
  checks := r.checks

/-- All warnings about the request, in order. -/
def warnings (r : RequestRecord) : List Warning :=
  r.helperWarnings ++ r.bodyWarnings ++ r.scriptWarnings

end RequestRecord

end LoadScenario
