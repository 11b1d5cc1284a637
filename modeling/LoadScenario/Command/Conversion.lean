import LoadScenario.Command.Listing

/-!
# Converting a collection

The convert command makes the files of a simulation and tells what it has done step by step. When
it fails, what was done before is still told, and so are the warnings that have come up.
-/

namespace LoadScenario

/-- What a conversion is asked to do. -/
structure Conversion where
  collection : Path
  environment : Option Path
  /-- The name of the simulation, if it is not to be that of the collection. -/
  output : Option String
  layout : Layout
  template : Option Path

namespace Conversion

/-- A line that tells of something done. -/
def doneLine (color : Bool) (what : String) (path : Path) : String :=
  paint color .green "✓" ++ " " ++ what ++ ": " ++ path.text

/-- The lines about a simulation that has been written. -/
def reportLines (color : Bool) (layout : Layout) (r : Report) : List String :=
  [doneLine color "Generated Gatling scenario" r.scenario] ++
  r.feeder.toList.map (doneLine color "Generated feeder") ++
  ["  Simulation: " ++ paint color .bold r.simulation ++
      " (" ++ toString r.requestCount ++ " request(s))",
    "  Bodies: " ++ (layout.bodiesOf r.simulation).text]

variable {m : Type → Type} [Monad m] [FileAccess m]

/-- Does everything that is asked. The answer holds the lines that tell of it. -/
def steps (c : Conversion) (color : Bool) (schedule : Schedule) :
    m (List String × Except Failure Unit × Simulation) := do
  let (answer, s) ← (Simulation.new c.output).readEnvironment c.environment
  if let .error failure := answer then
    return ([], .error failure, s)
  let told := c.environment.toList.map (doneLine color "Loaded environment")
  let (answer, s) ← s.readCollection c.collection
  if let .error failure := answer then
    return (told, .error failure, s)
  let told := told ++ [doneLine color "Loaded collection" c.collection]
  let (answer, s) := s.deriveFeeder
  if let .error failure := answer then
    return (told, .error failure, s)
  let (answer, s) := s.deriveRequests
  if let .error failure := answer then
    return (told, .error failure, s)
  let (answer, s) ← s.write schedule c.layout c.template
  match answer with
  | .error failure => return (told, .error failure, s)
  | .ok report => return (told ++ reportLines color c.layout report, .ok (), s)

/-- The convert command. -/
def run (c : Conversion) (color : Bool) (schedule : Schedule) : m Outcome := do
  let (told, answer, s) ← c.steps color schedule
  return ⟨printed (told ++ warningLines color s.warnings), answer⟩

end Conversion

end LoadScenario
