import LoadScenario.Path

/-!
# The layout of the output

A scenario goes into three directories: one for bodies, with a directory of its own for each
simulation, one for feeder files and one for the scenarios. Each can be given on its own; those
that are not given lie where the load test tool expects them below its home.

The names of collections and requests are free text. Where one becomes a file name, every character
that is not an ASCII letter, a digit or a hyphen becomes an underscore. The name of a simulation is
the name of a class as well, so it gets an underscore in front if it would be empty or start with a
digit.
-/

namespace LoadScenario

/-- Whether a character stays as it is in a file name. -/
def isSafe (c : Char) : Bool := c.isAlphanum || c = '-'

/-- A name whose unsafe characters have become underscores. -/
def safeName (name : String) : String :=
  String.ofList (name.toList.map fun c => if isSafe c then c else '_')

/-- The name of the simulation that is made from a collection or for an output of some name. -/
def className (name : String) : String :=
  let safe := safeName name
  if safe.toList.head?.any fun c => !c.isDigit then safe else "_" ++ safe

/-- The three output directories. -/
structure Layout where
  bodies : Path
  data : Path
  simulations : Path
  deriving DecidableEq

namespace Layout

/-- The directory of the user's files below a home. -/
def userFiles (home : Path) : Path := home.join "user-files"

/-- The directories below a home. -/
def ofHome (home : Path) : Layout where
  bodies := (userFiles home).join "bodies"
  data := (userFiles home).join "data"
  simulations := (userFiles home).join "simulations"

/-- The directories that are given, and those below a home where none is given. -/
def resolve (home : Path) (bodies data simulations : Option Path) : Layout where
  bodies := bodies.getD (ofHome home).bodies
  data := data.getD (ofHome home).data
  simulations := simulations.getD (ofHome home).simulations

/-- The file of a scenario. -/
def scenario (p : Layout) (simulation : String) : Path :=
  p.simulations.join (simulation ++ ".scala")

/-- The file of a feeder. -/
def feeder (p : Layout) (simulation : String) : Path :=
  p.data.join (simulation ++ ".json")

/-- The directory of the bodies of a simulation. -/
def bodiesOf (p : Layout) (simulation : String) : Path := p.bodies.join simulation

end Layout

end LoadScenario
