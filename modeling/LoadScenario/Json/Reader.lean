import LoadScenario.Json.Token

/-!
# Reading JSON

The second half of reading: a list of tokens becomes a value. The reader takes one token at a time
and keeps what it has read so far on a stack, one frame for each array or object that is still
open, so a deeply nested document costs memory and nothing else.
-/

namespace LoadScenario.Json

/-- An array or object that is open, with what has been read of it in reverse. -/
inductive Frame where
  | items (before : List Json)
  | members (before : List (Json.Text × Json)) (key : Json.Text)

/-- What may come next. -/
inductive Phase where
  /-- A value must come. -/
  | value
  /-- An array has just been opened. -/
  | firstItem
  /-- An object has just been opened. -/
  | firstKey
  /-- Another key must come. -/
  | nextKey (before : List (Json.Text × Json))
  /-- A key has been read, and the colon must come. -/
  | afterKey (before : List (Json.Text × Json)) (key : Json.Text)
  /-- A value has been read. -/
  | afterValue (v : Json)

/-- Takes the first token of a value. -/
def startValue (frames : List Frame) : Token → Option (Phase × List Frame)
  | .atom v => some (.afterValue v, frames)
  | .text s => some (.afterValue (.string s), frames)
  | .openArray => some (.firstItem, frames)
  | .openObject => some (.firstKey, frames)
  | _ => none

/-- Takes one token. -/
def advance : Phase × List Frame → Token → Option (Phase × List Frame)
  | (.value, frames), t => startValue frames t
  | (.firstItem, frames), .closeArray => some (.afterValue (.array []), frames)
  | (.firstItem, frames), t => startValue (.items [] :: frames) t
  | (.firstKey, frames), .closeObject => some (.afterValue (.object []), frames)
  | (.firstKey, frames), .text key => some (.afterKey [] key, frames)
  | (.nextKey before, frames), .text key => some (.afterKey before key, frames)
  | (.afterKey before key, frames), .colon => some (.value, .members before key :: frames)
  | (.afterValue v, .items before :: frames), .comma =>
    some (.value, .items (v :: before) :: frames)
  | (.afterValue v, .items before :: frames), .closeArray =>
    some (.afterValue (.array (v :: before).reverse), frames)
  | (.afterValue v, .members before key :: frames), .comma =>
    some (.nextKey ((key, v) :: before), frames)
  | (.afterValue v, .members before key :: frames), .closeObject =>
    some (.afterValue (.object ((key, v) :: before).reverse), frames)
  | _, _ => none

/-- Takes tokens one after the other. -/
def advanceAll : Phase × List Frame → List Token → Option (Phase × List Frame)
  | state, [] => some state
  | state, t :: ts =>
    match advance state t with
    | some next => advanceAll next ts
    | none => none

/-- The value that a list of tokens spells. -/
def ofTokens? (ts : List Token) : Option Json :=
  match advanceAll (.value, []) ts with
  | some (.afterValue v, []) => some v
  | _ => none

/-- The value that a text spells; none if it is not a JSON document. -/
def read? (s : String) : Option Json := (tokens? s.toList).bind ofTokens?

end LoadScenario.Json
