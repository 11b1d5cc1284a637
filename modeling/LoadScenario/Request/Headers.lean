import LoadScenario.OrderedMap
import LoadScenario.Placeholder
import LoadScenario.Text.Character

/-!
# Header blocks

A collection records the headers of a request as one text with a header on each line, the key
before the first colon and the value behind it. A line without a colon is no header. White space
around a line, a key or a value does not belong to it, a carriage return included, so it does not
matter how the lines end.
-/

namespace LoadScenario

open Text

/-- The key and the value on a line, if it has a colon. -/
def headerOfLine? (line : List Char) : Option (String × String) :=
  let line := trim line
  match line.dropWhile (· ≠ ':') with
  | [] => none
  | _ :: value =>
    some (String.ofList (trim (line.takeWhile (· ≠ ':'))), String.ofList (trim value))

/-- The headers of a block, as they are written. -/
def headerLines (block : String) : List (String × String) :=
  (lines block.toList).filterMap headerOfLine?

/-- A text with its ASCII letters in lower case. -/
def foldCase (s : String) : List Char := s.toList.map Char.toLower

/-- Whether a header carries credentials of its own. -/
def isAuthorization (key : String) : Bool := foldCase key = "authorization".toList

/-- The headers of a request with their placeholders written as references. A request that
authenticates by a helper drops the headers that would do so as well. -/
def headersOf (block : String) (authenticates : Bool) : OrderedMap :=
  OrderedMap.ofList
    (((headerLines block).filter fun (key, _) => !(authenticates && isAuthorization key)).map
      fun (key, value) => (translate key, translate value))

end LoadScenario
