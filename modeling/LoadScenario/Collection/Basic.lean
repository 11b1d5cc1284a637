/-!
# Request collections

A collection is exported with all its requests in one list and says by their ids in which order
they run: each folder has an order of its own, and the requests outside any folder have one too. An
id that several requests carry means the first of them.
-/

namespace LoadScenario

/-- The user and password of an authentication helper. -/
structure Credentials where
  username : String
  password : String
  deriving DecidableEq, Inhabited

/-- A request as a collection records it. -/
structure RequestRecord where
  id : String
  name : String
  method : String
  url : String
  /-- One header a line, its key and value separated by a colon. -/
  headers : String
  /-- Where the body comes from. -/
  bodyMode : Option String
  /-- The body if it is given as it is. -/
  rawBody : Option String
  /-- The authentication helper. -/
  helper : Option String
  credentials : Option Credentials
  /-- The script that runs after the response. -/
  tests : Option String
  deriving DecidableEq

/-- A folder: a name and the ids of its requests in the order in which they run. -/
structure Folder where
  name : String
  order : List String
  deriving DecidableEq

/-- A collection. -/
structure Collection where
  name : String
  folders : List Folder
  requests : List RequestRecord
  /-- The ids of the requests outside any folder. -/
  order : List String
  deriving DecidableEq

namespace Collection

/-- The request with an id. -/
def find? (c : Collection) (id : String) : Option RequestRecord :=
  c.requests.find? fun r => r.id = id

/-- The ids of all orders, each with the name of what lists it: the folders by name, and the
collection itself behind them. Folders of one name stay in the order of the export. -/
def sequence (c : Collection) : List (String × String) :=
  let folders := c.folders.mergeSort fun a b => a.name ≤ b.name
  folders.flatMap (fun f => f.order.map (f.name, ·)) ++ c.order.map (c.name, ·)

end Collection

end LoadScenario
