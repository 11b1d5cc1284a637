import LoadScenario.Simulation.Basic

/-!
# Simulations as they are kept

A stage has room for exactly what a simulation holds at it. A draft has room for everything at any
time: the collection may be there or not, the feeder and the requests are empty until they are
derived, and how far the simulation has come is written down beside them. Nothing about a draft says
that these parts fit together. Each operation looks at the state first and takes the parts as it
finds them, and where it needs a collection it is ready to find none.
-/

namespace LoadScenario

/-- Why an operation on a draft was refused or failed. -/
inductive Obstacle where
  | failure (cause : Failure)
  /-- There is no collection where there should be one. -/
  | noCollection
  deriving DecidableEq

/-- The words for an obstacle. -/
def Obstacle.message : Obstacle → String
  | failure cause => cause.message
  | noCollection => "Invalid simulation state: no collection loaded"

/-- A simulation with all that it can hold side by side. -/
structure Draft where
  /-- The name that the user wants instead of the name of the collection. -/
  outputName : Option String
  environment : Environment
  collection : Option Collection
  feeder : Feeder
  requests : List Request
  state : State
  /-- The warnings that nobody has taken yet, oldest first. -/
  warnings : List Warning

namespace Draft

/-- A draft that holds nothing. -/
def new (outputName : Option String) : Draft := ⟨outputName, [], none, .empty, [], .empty, []⟩

/-- The name of the simulation, once something gives it a name. -/
def name? (d : Draft) : Option String :=
  (d.outputName.or (d.collection.map (·.name))).map className

/-- Hands out the warnings. -/
def takeWarnings (d : Draft) : List Warning × Draft := (d.warnings, { d with warnings := [] })

/-- What stands in the way of an action that is possible in one state only. -/
def obstacle? (d : Draft) (expected : State) (action : Action) : Option Obstacle :=
  if d.state = expected then none else some (.failure (.wrongState action d.state))

/-! ## Feeder and requests -/

/-- Derives the feeder from the environment. -/
def deriveFeeder (d : Draft) : Except Obstacle Unit × Draft :=
  match d.obstacle? .loaded .deriveFeeder with
  | some obstacle => (.error obstacle, d)
  | none =>
    match Feeder.build d.environment with
    | .ok feeder => (.ok (), { d with feeder, state := .feederBuilt })
    | .error names => (.error (.failure (.cyclicVariables names)), d)

/-- Derives the requests from the collection. -/
def deriveRequests (d : Draft) : Except Obstacle Unit × Draft :=
  match d.obstacle? .feederBuilt .deriveRequests with
  | some obstacle => (.error obstacle, d)
  | none =>
    match d.collection with
    | none => (.error .noCollection, d)
    | some c =>
      let (answer, warnings) := Simulation.analyzeAll c c.sequence
      let d := { d with warnings := d.warnings ++ warnings }
      match answer with
      | .ok requests => (.ok (), { d with requests, state := .requestsBuilt })
      | .error failure => (.error (.failure failure), d)

/-! ## Reading and writing -/

variable {m : Type → Type} [Monad m] [FileAccess m]

/-- Reads the environment, before or after the collection. Without a path nothing changes. -/
def readEnvironment (d : Draft) (path : Option Path) : m (Except Obstacle Unit × Draft) := do
  let obstacle? := if d.state = .loaded then none else d.obstacle? .empty .readEnvironment
  match obstacle?, path with
  | some obstacle, _ => return (.error obstacle, d)
  | none, none => return (.ok (), d)
  | none, some path =>
    match ← readText path with
    | .error fault => return (.error (.failure (.environmentUnreadable path fault)), d)
    | .ok text =>
      match Environment.read? text with
      | none => return (.error (.failure .environmentMalformed), d)
      | some environment => return (.ok (), { d with environment })

/-- Reads the collection. -/
def readCollection (d : Draft) (path : Path) : m (Except Obstacle Unit × Draft) := do
  match d.obstacle? .empty .readCollection with
  | some obstacle => return (.error obstacle, d)
  | none =>
    match ← readText path with
    | .error fault => return (.error (.failure (.collectionUnreadable path fault)), d)
    | .ok text =>
      match Collection.read? text with
      | none => return (.error (.failure .collectionMalformed), d)
      | some collection =>
        return (.ok (), { d with collection := some collection, state := .loaded })

/-- Writes the scenario, the feeder and the body files. -/
def write (schedule : Schedule) (layout : Layout) (template : Option Path)
    (d : Draft) : m (Except Obstacle Report × Draft) := do
  match d.obstacle? .requestsBuilt .write with
  | some obstacle => return (.error obstacle, d)
  | none =>
    match d.name? with
    | none => return (.error .noCollection, d)
    | some name =>
      let (answer, warnings) ←
        Simulation.writeAll schedule layout template name d.feeder d.requests
      let d := { d with warnings := d.warnings ++ warnings }
      match answer with
      | .ok report => return (.ok report, { d with state := .generated })
      | .error failure => return (.error (.failure failure), d)

end Draft

end LoadScenario
