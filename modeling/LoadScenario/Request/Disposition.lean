import LoadScenario.OrderedMap
import LoadScenario.Request.Headers
import LoadScenario.Text.Character

/-!
# File names in a disposition header

A request that sends a file as it is names the file in its Content-Disposition header, in the
parameter `filename`. The name may be plain or quoted, or it may be in the extended form, where an
asterisk follows the parameter and a character set and a language stand before the name, each ended
by a single quote. The parameter is found wherever its name occurs first with something behind it.

The value runs to the next quote or semicolon. An opening quote is skipped, and the character set
and language are skipped, if something is left behind them; otherwise what looked like them is the
value.
-/

namespace LoadScenario

open Text

/-- Whether a character may stand in the name of a character set. -/
def inCharset (c : Char) : Bool := isWord c || "!#$%&+^\x60\x7b\x7d~.-".toList.contains c

/-- Whether a character may stand in a language tag. -/
def inLanguage (c : Char) : Bool := isWord c || c = '-'

/-- Whether a character may stand in a parameter value. -/
def inParameter (c : Char) : Bool := c ≠ '"' && c ≠ '\x27' && c ≠ ';'

/-- The text behind a character set and a language. -/
def afterCharset (cs : List Char) : Option (List Char) := do
  let cs ← expect ['\x27'] (cs.dropWhile inCharset)
  expect ['\x27'] (cs.dropWhile inLanguage)

/-- The text without the quote it starts with. -/
def dropQuote : List Char → List Char
  | [] => []
  | c :: cs => if c = '"' ∨ c = '\x27' then cs else c :: cs

/-- Reads a value that may start with a quote; it has one character at least. -/
def parameterValue (cs : List Char) : Option (List Char × List Char) :=
  match (dropQuote cs).takeWhile inParameter with
  | [] => none
  | value => some (value, (dropQuote cs).dropWhile inParameter)

/-- Recognises the parameter that names the file. If nothing but white space stands behind the
equals sign, the value is empty. -/
def filenameParameter : Recognizer (List Char) := fun _ cs => do
  let cs ← expectAnyCase "filename".toList cs
  let cs := (expect ['*'] cs).getD cs
  let cs ← expect ['='] (skipBlank cs)
  let value := skipBlank cs
  match (afterCharset value).bind parameterValue with
  | some answer => some answer
  | none =>
    match parameterValue value with
    | some answer => some answer
    | none => if value.length < cs.length then some ([], value) else none

/-- The file name in the value of a disposition header. -/
def dispositionFilename? (value : String) : Option String :=
  (find? filenameParameter value.toList).bind fun name =>
    if (trim name).isEmpty then none else some (String.ofList (trim name))

/-- Whether a header says how the body is to be taken. -/
def isDisposition (key : String) : Bool := foldCase key = "content-disposition".toList

/-- The file name that the headers of a request give: only the first disposition header counts. -/
def filenameFromHeaders? (headers : OrderedMap) : Option String :=
  (headers.entries.find? fun (key, _) => isDisposition key).bind fun (_, value) =>
    dispositionFilename? value

end LoadScenario
