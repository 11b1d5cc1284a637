import LoadScenario.Json.Printer
import LoadScenario.Json.Reader
import LoadScenario.Json.Record

/-!
# Environments

An environment declares the variables that a collection uses. A declaration counts only if it is
enabled, and one that does not say so is not.
-/

namespace LoadScenario

open Json

/-- The declaration of a variable. -/
structure Variable where
  key : String
  /-- The value, in which placeholders may refer to other variables. -/
  value : String
  enabled : Bool
  deriving DecidableEq

/-- The variables that an environment declares, in order. -/
abbrev Environment := List Variable

namespace Variable

/-- Reads a declaration. -/
def ofJson? (j : Json) : Option Variable := do
  let r ← j.record? ["key", "value", "enabled"]
  let key ← r.required "key" Json.string?
  let value ← r.withDefault "value" Json.string? ""
  let enabled ← r.withDefault "enabled" Json.bool? false
  return ⟨key, value, enabled⟩

/-- A declaration as JSON. -/
def toJson (v : Variable) : Json :=
  .ofMembers [("key", .ofString v.key), ("value", .ofString v.value), ("enabled", .bool v.enabled)]

end Variable

namespace Environment

/-- Reads an environment; one without a list of variables has none. -/
def ofJson? (j : Json) : Option Environment := do
  let r ← j.record? ["values"]
  r.withDefault "values" (Json.list? Variable.ofJson?) []

/-- An environment as JSON. -/
def toJson (e : Environment) : Json := .ofMembers [("values", .ofList Variable.toJson e)]

/-- Reads the text of an environment document. -/
def read? (text : String) : Option Environment := (Json.read? text).bind ofJson?

end Environment

end LoadScenario
