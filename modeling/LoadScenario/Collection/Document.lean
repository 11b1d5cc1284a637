import LoadScenario.Collection.Basic
import LoadScenario.Json.Printer
import LoadScenario.Json.Reader
import LoadScenario.Json.Record

/-!
# Collection documents

The JSON form of a collection. Everything a collection must have to make sense is required: names,
ids, methods and addresses. Lists and the header block are empty when they are left out, and the
rest of a request is optional, so null means the same there as leaving it out.
-/

namespace LoadScenario

open Json

namespace Credentials

/-- Reads credentials; what is left out is empty. -/
def ofJson? (j : Json) : Option Credentials := do
  let r ← j.record? ["username", "password"]
  let username ← r.withDefault "username" Json.string? ""
  let password ← r.withDefault "password" Json.string? ""
  return ⟨username, password⟩

/-- Credentials as JSON. -/
def toJson (c : Credentials) : Json :=
  .ofMembers [("username", .ofString c.username), ("password", .ofString c.password)]

end Credentials

namespace RequestRecord

/-- The keys of a request in the order of declaration. -/
def keys : List String :=
  ["id", "name", "method", "url", "headers", "dataMode", "rawModeData", "currentHelper",
    "helperAttributes", "tests"]

/-- Reads a request. -/
def ofJson? (j : Json) : Option RequestRecord := do
  let r ← j.record? keys
  let id ← r.required "id" Json.string?
  let name ← r.required "name" Json.string?
  let method ← r.required "method" Json.string?
  let url ← r.required "url" Json.string?
  let headers ← r.withDefault "headers" Json.string? ""
  let bodyMode ← r.optional "dataMode" Json.string?
  let rawBody ← r.optional "rawModeData" Json.string?
  let helper ← r.optional "currentHelper" Json.string?
  let credentials ← r.optional "helperAttributes" Credentials.ofJson?
  let tests ← r.optional "tests" Json.string?
  return { id, name, method, url, headers, bodyMode, rawBody, helper, credentials, tests }

/-- The member of an optional field, if it is there. -/
def optionalMember {α : Type} (key : String) (value : α → Json) : Option α → List (String × Json)
  | some a => [(key, value a)]
  | none => []

/-- A request as JSON, without the optional fields that are not there. -/
def toJson (r : RequestRecord) : Json :=
  .ofMembers (
    [("id", .ofString r.id), ("name", .ofString r.name), ("method", .ofString r.method),
      ("url", .ofString r.url), ("headers", .ofString r.headers)] ++
    optionalMember "dataMode" .ofString r.bodyMode ++
    optionalMember "rawModeData" .ofString r.rawBody ++
    optionalMember "currentHelper" .ofString r.helper ++
    optionalMember "helperAttributes" Credentials.toJson r.credentials ++
    optionalMember "tests" .ofString r.tests)

end RequestRecord

namespace Folder

/-- Reads a folder. -/
def ofJson? (j : Json) : Option Folder := do
  let r ← j.record? ["name", "order"]
  let name ← r.required "name" Json.string?
  let order ← r.withDefault "order" (Json.list? Json.string?) []
  return ⟨name, order⟩

/-- A folder as JSON. -/
def toJson (f : Folder) : Json :=
  .ofMembers [("name", .ofString f.name), ("order", .ofList .ofString f.order)]

end Folder

namespace Collection

/-- Reads a collection. -/
def ofJson? (j : Json) : Option Collection := do
  let r ← j.record? ["name", "folders", "requests", "order"]
  let name ← r.required "name" Json.string?
  let folders ← r.withDefault "folders" (Json.list? Folder.ofJson?) []
  let requests ← r.withDefault "requests" (Json.list? RequestRecord.ofJson?) []
  let order ← r.withDefault "order" (Json.list? Json.string?) []
  return ⟨name, folders, requests, order⟩

/-- A collection as JSON. -/
def toJson (c : Collection) : Json :=
  .ofMembers [("name", .ofString c.name), ("folders", .ofList Folder.toJson c.folders),
    ("requests", .ofList RequestRecord.toJson c.requests), ("order", .ofList .ofString c.order)]

/-- Reads the text of a collection document. -/
def read? (text : String) : Option Collection := (Json.read? text).bind ofJson?

end Collection

end LoadScenario
