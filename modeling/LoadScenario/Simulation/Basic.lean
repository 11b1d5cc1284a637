import LoadScenario.Collection.Document
import LoadScenario.Feeder
import LoadScenario.Layout
import LoadScenario.Request.Analysis
import LoadScenario.Scenario.Block
import LoadScenario.Scenario.Template
import LoadScenario.Simulation.Output

/-!
# Simulations

A simulation is made in steps: the environment and the collection are read, the feeder and the
requests are derived from them, and the files are written. What a simulation holds depends on how
far it has come, so it is kept in a stage that has room for exactly that. A step that is asked for
too early or too late is refused, and a step that fails leaves the simulation at its stage, so it
can be tried again. Only the warnings that have come up on the way stay.
-/

namespace LoadScenario

/-- What a simulation holds. -/
inductive Stage where
  | empty
  | loaded (collection : Collection)
  | feederBuilt (collection : Collection) (feeder : Feeder)
  | requestsBuilt (collection : Collection) (feeder : Feeder) (requests : List Request)
  | generated (collection : Collection) (feeder : Feeder) (requests : List Request)

namespace Stage

/-- How far a simulation at this stage has come. -/
def state : Stage → State
  | empty => .empty
  | loaded _ => .loaded
  | feederBuilt _ _ => .feederBuilt
  | requestsBuilt _ _ _ => .requestsBuilt
  | generated _ _ _ => .generated

/-- The collection, once it is read. -/
def collection? : Stage → Option Collection
  | empty => none
  | loaded c | feederBuilt c _ | requestsBuilt c _ _ | generated c _ _ => some c

/-- The feeder; empty until it is derived. -/
def feeder : Stage → Feeder
  | empty | loaded _ => .empty
  | feederBuilt _ f | requestsBuilt _ f _ | generated _ f _ => f

/-- The requests; none until they are derived. -/
def requests : Stage → List Request
  | empty | loaded _ | feederBuilt _ _ => []
  | requestsBuilt _ _ rs | generated _ _ rs => rs

end Stage

/-- A simulation. -/
structure Simulation where
  /-- The name that the user wants instead of the name of the collection. -/
  outputName : Option String
  environment : Environment
  stage : Stage
  /-- The warnings that nobody has taken yet, oldest first. -/
  warnings : List Warning

/-- What there is to tell once everything is written. -/
structure Report where
  simulation : String
  scenario : Path
  /-- The feeder file, if there are variables. -/
  feeder : Option Path
  requestCount : Nat
  deriving DecidableEq

namespace Simulation

/-- A simulation that holds nothing. -/
def new (outputName : Option String) : Simulation := ⟨outputName, [], .empty, []⟩

/-- How far the simulation has come. -/
def state (s : Simulation) : State := s.stage.state

/-- The feeder; empty until it is derived. -/
def feeder (s : Simulation) : Feeder := s.stage.feeder

/-- The requests in the order in which they run; none until they are derived. -/
def requests (s : Simulation) : List Request := s.stage.requests

/-- The name of the simulation, once something gives it a name. -/
def name? (s : Simulation) : Option String :=
  (s.outputName.or (s.stage.collection?.map (·.name))).map className

/-- The name of the simulation of a collection. -/
def nameFor (s : Simulation) (c : Collection) : String :=
  className (s.outputName.getD c.name)

/-- Hands out the warnings. -/
def takeWarnings (s : Simulation) : List Warning × Simulation :=
  (s.warnings, { s with warnings := [] })

/-- The refusal of an action in the present state. -/
def refuse {α : Type} (s : Simulation) (action : Action) : Except Failure α × Simulation :=
  (.error (.wrongState action s.state), s)

/-! ## Feeder and requests -/

/-- Derives the feeder from the environment. -/
def deriveFeeder (s : Simulation) : Except Failure Unit × Simulation :=
  match s.stage with
  | .loaded c =>
    match Feeder.build s.environment with
    | .ok feeder => (.ok (), { s with stage := .feederBuilt c feeder })
    | .error names => (.error (.cyclicVariables names), s)
  | _ => s.refuse .deriveFeeder

/-- Analyzes the requests of a sequence of ids, each with the name of what lists it. The warnings
are those of the requests before the first id that no request has. -/
def analyzeAll (c : Collection) :
    List (String × String) → Except Failure (List Request) × List Warning
  | [] => (.ok [], [])
  | (container, id) :: rest =>
    match c.find? id with
    | none => (.error (.requestNotFound id container), [])
    | some r =>
      let (answer, warnings) := analyzeAll c rest
      (answer.map (r.request :: ·), r.warnings ++ warnings)

/-- Derives the requests from the collection. -/
def deriveRequests (s : Simulation) : Except Failure Unit × Simulation :=
  match s.stage with
  | .feederBuilt c feeder =>
    let (answer, warnings) := analyzeAll c c.sequence
    let s := { s with warnings := s.warnings ++ warnings }
    match answer with
    | .ok requests => (.ok (), { s with stage := .requestsBuilt c feeder requests })
    | .error failure => (.error failure, s)
  | _ => s.refuse .deriveRequests

/-! ## Reading and writing -/

/-- The depth of the requests in a scenario. -/
def requestDepth : Nat := 2

/-- The text of the scenario. -/
def scenarioText (template simulation : String) (feeder : Feeder) (requests : List Request) :
    String :=
  let feed := if feeder.isEmpty then "" else Scenario.feedLine simulation requestDepth
  Scenario.fill template simulation feed (Scenario.blocks simulation requestDepth requests)

/-- The feeder file; there is none without variables. -/
def feederPath? (layout : Layout) (simulation : String) (feeder : Feeder) : Option Path :=
  if feeder.isEmpty then none else some (layout.feeder simulation)

/-- Everything that has to be written for a simulation. -/
def output (layout : Layout) (template simulation : String) (feeder : Feeder)
    (requests : List Request) : Output where
  scenario := .of (layout.scenario simulation)
    (scenarioText template simulation feeder requests)
  feeder := (feederPath? layout simulation feeder).map fun path => .of path feeder.document
  bodies := bodyWork layout.bodies simulation requests
  warnings := []

variable {m : Type → Type} [Monad m] [FileAccess m]

/-- Reads the environment, before or after the collection. Without a path nothing changes. -/
def readEnvironment (s : Simulation) (path : Option Path) :
    m (Except Failure Unit × Simulation) := do
  if s.state ≠ .empty ∧ s.state ≠ .loaded then
    return s.refuse .readEnvironment
  match path with
  | none => return (.ok (), s)
  | some path =>
    match ← readText path with
    | .error fault => return (.error (.environmentUnreadable path fault), s)
    | .ok text =>
      match Environment.read? text with
      | none => return (.error .environmentMalformed, s)
      | some environment => return (.ok (), { s with environment })

/-- Reads the collection. -/
def readCollection (s : Simulation) (path : Path) : m (Except Failure Unit × Simulation) := do
  match s.stage with
  | .empty =>
    match ← readText path with
    | .error fault => return (.error (.collectionUnreadable path fault), s)
    | .ok text =>
      match Collection.read? text with
      | none => return (.error .collectionMalformed, s)
      | some collection => return (.ok (), { s with stage := .loaded collection })
  | _ => return s.refuse .readCollection

/-- Reads the template that the user gives. -/
def readTemplate : Option Path → m (Except Failure String)
  | none => return .ok Scenario.defaultTemplate
  | some path => do
    return (← readText path).mapError (Failure.templateUnreadable path)

/-- Writes everything for a simulation, after its directory of bodies has been made and the
template has been read. The warnings are those that came up while writing. -/
def writeAll (schedule : Schedule) (layout : Layout) (template : Option Path)
    (simulation : String) (feeder : Feeder) (requests : List Request) :
    m (Except Failure Report × List Warning) := do
  let directory := layout.bodiesOf simulation
  match ← makeDirectories directory with
  | .error fault => return (.error (.directoryNotMade directory fault), [])
  | .ok () =>
    match ← readTemplate template with
    | .error failure => return (.error failure, [])
    | .ok template =>
      let written ← (output layout template simulation feeder requests).run schedule
      match written.failure? with
      | some failure => return (.error failure, written.warnings)
      | none =>
        return (.ok ⟨simulation, layout.scenario simulation,
          feederPath? layout simulation feeder, requests.length⟩, written.warnings)

/-- Writes the scenario, the feeder and the body files. -/
def write (schedule : Schedule) (layout : Layout) (template : Option Path)
    (s : Simulation) : m (Except Failure Report × Simulation) := do
  match s.stage with
  | .requestsBuilt c feeder requests =>
    let (answer, warnings) ←
      writeAll schedule layout template (s.nameFor c) feeder requests
    let s := { s with warnings := s.warnings ++ warnings }
    match answer with
    | .ok report => return (.ok report, { s with stage := .generated c feeder requests })
    | .error failure => return (.error failure, s)
  | _ => return s.refuse .write

end Simulation

end LoadScenario
