import LoadScenario.Simulation.Basic
import LoadScenario.Terminal

/-!
# Listing the requests of a collection

The list command shows what a conversion would make of a collection, without writing anything: the
name of the simulation, the variables and their values, and the requests with what they send and
what they check. Passwords and the contents of bodies are not shown.
-/

namespace LoadScenario

/-- What a command prints, and whether it succeeded. -/
structure Outcome where
  stdout : String
  result : Except Failure Unit

/-- Lines as they are printed. -/
def printed (lines : List String) : String := String.join (lines.map (· ++ "\n"))

/-- How collected warnings are printed: under a heading, one on a line. -/
def warningLines (color : Bool) (warnings : List Warning) : List String :=
  if warnings.isEmpty then
    []
  else
    ["", paint color .yellow "! Warnings:"] ++
    warnings.map fun w => "  - " ++ paint color .yellow w.message

namespace Listing

/-- The source of a captured value. -/
def sourceOf : Capture → String
  | .literal _ value => "\"" ++ value ++ "\""
  | .json _ path => "$." ++ path

/-- The lines about the checks of a request. -/
def checkLines (color : Bool) (c : Checks) : List String :=
  if c.isEmpty then
    []
  else
    ["     Checks: " ++ toString c.count] ++
    (if c.status.isEmpty then []
      else ["       status in " ++ Scenario.commaList (c.status.map toString)]) ++
    c.notStatus.map (fun code => "       status not " ++ toString code) ++
    c.bodyHas.map (fun pattern => "       body matches " ++ pattern) ++
    c.captures.map (fun capture =>
      "       save " ++ paint color .cyan capture.name ++ " from " ++ sourceOf capture)

/-- The lines about a request, given its place in the list. -/
def requestLines (color : Bool) (place : Nat) (r : Request) : List String :=
  ["",
    "  " ++ toString place ++ ". " ++ paint color .brightCyan (Text.uppercase r.method) ++ " " ++
      paint color .bold r.name,
    "     URL: " ++ r.url] ++
  r.auth.toList.map (fun a => "     Auth: " ++ a.scheme.name ++ " (" ++ a.user ++ ")") ++
  (if r.headers.isEmpty then [] else ["     Headers: " ++ toString r.headers.size]) ++
  r.body.toList.map (fun b => "     Body: " ++ paint color .brightYellow b.filename) ++
  checkLines color r.checks

/-- The lines about requests, given the place of the first. -/
def requestsFrom (color : Bool) (place : Nat) : List Request → List String
  | [] => []
  | r :: rest => requestLines color place r ++ requestsFrom color (place + 1) rest

/-- The lines about all requests. -/
def requestsLines (color : Bool) (rs : List Request) : List String :=
  if rs.isEmpty then
    [paint color .yellow "No requests found"]
  else
    paint color .bold ("Requests (" ++ toString rs.length ++ "):") :: requestsFrom color 1 rs

/-- The lines that are printed before anything is loaded. -/
def opening (color : Bool) (collection : Path) : List String :=
  [paint color .brightBlue "Loading Postman collection...", "  Path: " ++ collection.text]

/-- The lines about a simulation whose requests are built. -/
def simulationLines (color : Bool) (s : Simulation) : List String :=
  ["", paint color .green "✓ Collection loaded successfully"] ++
  s.name?.toList.map (fun name => "  Simulation: " ++ paint color .bold name) ++
  ["  Variables: " ++ toString s.feeder.size] ++
  s.feeder.toList.map (fun (key, value) => "    " ++ paint color .cyan key ++ " = " ++ value) ++
  [""] ++
  requestsLines color s.requests

variable {m : Type → Type} [Monad m] [FileAccess m]

/-- Loads what is needed and builds the feeder and the requests. -/
def prepare (collection : Path) (environment : Option Path) :
    m (Except Failure Unit × Simulation) := do
  let (answer, s) ← (Simulation.new none).readEnvironment environment
  if let .error failure := answer then
    return (.error failure, s)
  let (answer, s) ← s.readCollection collection
  if let .error failure := answer then
    return (.error failure, s)
  let (answer, s) := s.deriveFeeder
  if let .error failure := answer then
    return (.error failure, s)
  return s.deriveRequests

/-- The list command. -/
def run (color : Bool) (collection : Path) (environment : Option Path) : m Outcome := do
  let (answer, s) ← prepare collection environment
  match answer with
  | .error failure => return ⟨printed (opening color collection), .error failure⟩
  | .ok () =>
    let lines := opening color collection ++ simulationLines color s
    return ⟨printed (lines ++ warningLines color s.warnings), .ok ()⟩

end Listing

end LoadScenario
