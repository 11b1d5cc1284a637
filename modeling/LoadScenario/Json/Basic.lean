/-!
# JSON values

Collections, environments and feeder documents are JSON. A value is kept as it is written: the
members of an object in their order, repeated keys included, and a number as its digits, because
no number is ever computed with here.

JSON can spell something that is no text, half of a surrogate pair. Such a string is a valid value
and may stand wherever it is not looked at, so the string type has a case for it.
-/

namespace LoadScenario

/-- A JSON string; none if its escapes spell half of a surrogate pair, which is no text. -/
abbrev Json.Text := Option String

/-- A JSON value. -/
inductive Json where
  | null
  | bool (b : Bool)
  /-- A number as it is written. -/
  | number (digits : String)
  | string (s : Json.Text)
  | array (items : List Json)
  | object (members : List (Json.Text × Json))
  deriving Inhabited

namespace Json

/-- The JSON string that spells a text. -/
def ofString (s : String) : Json := .string (some s)

/-- The array of the values of a list. -/
def ofList {α : Type} (value : α → Json) (l : List α) : Json := .array (l.map value)

/-- The object with given members. -/
def ofMembers (members : List (String × Json)) : Json :=
  .object (members.map fun (key, value) => (some key, value))

/-- The text of a string value. -/
def string? : Json → Option String
  | .string s => s
  | _ => none

/-- The truth value of a truth value. -/
def bool? : Json → Option Bool
  | .bool b => some b
  | _ => none

/-- The values of an array, each read in the same way; none if one of them cannot be read. -/
def list? {α : Type} (read : Json → Option α) : Json → Option (List α)
  | .array items => items.mapM read
  | _ => none

end Json

end LoadScenario
