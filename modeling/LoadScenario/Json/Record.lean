import LoadScenario.Json.Basic

/-!
# Records

The documents that are read here are records: objects of which some keys are known. The rules are
the same for all of them. A key that is not known is passed over, whatever its value is. A known
key may come once only. And an array stands for a record as well, its items being the values of
the known keys in the order in which the record declares them; it may be shorter than that order,
but not longer.

A field is then required, or it has a default, or it is optional. The difference between the last
two is the value null: an optional field may be null, which is the same as leaving it out.
-/

namespace LoadScenario.Json

/-- The known keys that a document gives, with their values. -/
abbrev Record := List (String × Json)

/-- The members with known keys; none if some key is no text. -/
def knownMembers (names : List String) : List (Json.Text × Json) → Option Record
  | [] => some []
  | (none, _) :: _ => none
  | (some key, value) :: rest =>
    (knownMembers names rest).map fun known =>
      if key ∈ names then (key, value) :: known else known

/-- The record that a value stands for, given the known keys in the order of declaration. -/
def record? (names : List String) : Json → Option Record
  | .array items => if items.length ≤ names.length then some (names.zip items) else none
  | .object members =>
    (knownMembers names members).bind fun known =>
      if (known.map Prod.fst).Nodup then some known else none
  | _ => none

namespace Record

variable {α : Type}

/-- A field that must be there. -/
def required (r : Record) (name : String) (read : Json → Option α) : Option α :=
  (r.lookup name).bind read

/-- A field that has a value of its own when it is left out. -/
def withDefault (r : Record) (name : String) (read : Json → Option α) (default : α) : Option α :=
  match r.lookup name with
  | none => some default
  | some value => read value

/-- A field that may be left out or null. -/
def optional (r : Record) (name : String) (read : Json → Option α) : Option (Option α) :=
  match r.lookup name with
  | none => some none
  | some .null => some none
  | some value => (read value).map some

end Record

end LoadScenario.Json
