import LoadScenario.Text.Character
import LoadScenario.Text.Search

/-!
# Quoted literals

A test script writes a text between double quotes, single quotes or backquotes. A backslash takes
the next character with it, whatever it is, so that the literal ends at the first quote of its own
kind that no backslash has taken. The one character that a backslash cannot take is a newline.

Whether a plain newline may stand inside depends on who asks: the right-hand side of an assignment
holds single and double quoted literals on one line only, a call may have its argument run over
several lines.
-/

namespace LoadScenario.Script

open Text

/-- The three quotes. -/
inductive Quote where
  | double
  | single
  | back
  deriving DecidableEq

namespace Quote

/-- The character that opens and closes a literal. -/
def char : Quote → Char
  | double => '"'
  | single => '\x27'
  | back => '\x60'

/-- The quote that a character is. -/
def ofChar? (c : Char) : Option Quote :=
  if c = '"' then some double
  else if c = '\x27' then some single
  else if c = '\x60' then some back
  else none

/-- Whether a literal keeps to one line, where only backquoted ones may run over several. -/
def oneLine : Quote → Bool
  | back => false
  | _ => true

end Quote

/-- Reads a literal from behind its opening quote. The answer is the text between the quotes as
written, and what follows the closing quote. -/
def literalBody (q : Quote) (oneLine : Bool) : List Char → Option (List Char × List Char)
  | [] => none
  | [c] => if c = q.char then some ([], []) else none
  | c :: d :: cs =>
    if c = q.char then
      some ([], d :: cs)
    else if c = '\\' then
      if d = '\n' then none
      else (literalBody q oneLine cs).map fun (body, rest) => (c :: d :: body, rest)
    else if oneLine && c = '\n' then
      none
    else
      (literalBody q oneLine (d :: cs)).map fun (body, rest) => (c :: body, rest)

/-- Reads a literal with any of the three quotes. The predicate says which of them must keep to
one line. -/
def literal (oneLine : Quote → Bool) : List Char → Option (List Char × List Char)
  | [] => none
  | c :: cs => (Quote.ofChar? c).bind fun q => literalBody q (oneLine q) cs

/-- A literal that may run over several lines, whatever its quote. -/
def anyLine : Quote → Bool := fun _ => false

/-- The text that a literal stands for: each backslash gives way to the character it took. -/
def withoutEscapes : List Char → List Char
  | [] => []
  | [c] => [c]
  | c :: d :: cs =>
    if c = '\\' then
      if d = '\n' then c :: d :: withoutEscapes cs else d :: withoutEscapes cs
    else
      c :: withoutEscapes (d :: cs)

/-- The text of a value that is one literal and nothing else but white space around it. -/
def literalText? (value : String) : Option String :=
  match literal anyLine (skipBlank value.toList) with
  | some (body, rest) =>
    if (skipBlank rest).isEmpty then some (String.ofList (withoutEscapes body)) else none
  | none => none

end LoadScenario.Script
