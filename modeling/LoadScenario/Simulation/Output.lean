import LoadScenario.Files.Access
import LoadScenario.Simulation.BodyWork
import LoadScenario.Simulation.Failure

/-!
# Writing the output of a simulation

The scenario file, the feeder file and the body files are written side by side. The scenario and
the feeder each take two steps, making the directory and writing the file, and the work on the
bodies has its own tasks, so the run of an output is a sequence of turns in which these steps come
in some order. The order is given by a schedule. A schedule may be of any length: when its turns
are used up, what is left is done in the plain order, the scenario, the feeder and the bodies.

When one of the two files cannot be written, the other one may be given up. Whether that happens
is up to the schedule as well. The work on the bodies is done in any case.
-/

namespace LoadScenario

open Work

/-- How far the writing of a file has come. -/
inductive Progress where
  | started
  | directoryMade
  | written
  | failed (failure : Failure)
  deriving DecidableEq

/-- A file that is being written. -/
structure OutputFile where
  path : Path
  content : String
  progress : Progress
  deriving DecidableEq

namespace OutputFile

/-- A file that is about to be written. -/
def of (path : Path) (content : String) : OutputFile := ⟨path, content, .started⟩

/-- Why the file could not be written. -/
def failure? (f : OutputFile) : Option Failure :=
  match f.progress with
  | .failed failure => some failure
  | _ => none

/-- The directory that has to be there before the file can be written. -/
def directory? (f : OutputFile) : Option Path :=
  f.path.parent?.bind fun dir => if dir.isEmpty then none else some dir

variable {m : Type → Type} [Monad m] [FileAccess m]

/-- Takes one step. -/
def advance (f : OutputFile) : m OutputFile := do
  match f.progress with
  | .started =>
    match f.directory? with
    | none => return { f with progress := .directoryMade }
    | some dir =>
      match ← makeDirectories dir with
      | .ok () => return { f with progress := .directoryMade }
      | .error fault => return { f with progress := .failed (.directoryNotMade dir fault) }
  | .directoryMade =>
    match ← FileAccess.write f.path f.content with
    | .ok () => return { f with progress := .written }
    | .error fault => return { f with progress := .failed (.fileNotWritten f.path fault) }
  | _ => return f

end OutputFile

/-- Whose turn it is. -/
inductive Turn where
  | scenario
  | feeder
  | body (h : Handle)
  deriving DecidableEq

/-- In which order the steps of an output are taken. -/
structure Schedule where
  turns : List Turn
  /-- Whether one file is given up when the other could not be written. -/
  givesUp : Bool

/-- The schedule that takes every step in the plain order. -/
def Schedule.plain : Schedule := ⟨[], false⟩

/-- An output that is being written, with the warnings so far. -/
structure Output where
  scenario : OutputFile
  feeder : Option OutputFile
  bodies : Tracker BodyStep
  warnings : List Warning

namespace Output

/-- Why a file could not be written; if neither could, why the scenario could not. -/
def failure? (o : Output) : Option Failure :=
  o.scenario.failure?.or (o.feeder.bind OutputFile.failure?)

variable {m : Type → Type} [Monad m] [FileAccess m]

/-- Whether the files are not written any further. -/
def isGivenUp (o : Output) (givesUp : Bool) : Bool := givesUp && o.failure?.isSome

/-- Takes a step of the scenario. -/
def advanceScenario (o : Output) : m Output := do
  return { o with scenario := ← o.scenario.advance }

/-- Takes a step of the feeder. -/
def advanceFeeder (o : Output) : m Output := do
  match o.feeder with
  | none => return o
  | some f => return { o with feeder := some (← f.advance) }

/-- Takes a step of the work on a body. -/
def advanceBody (o : Output) (h : Handle) : m Output := do
  let (step, bodies) := o.bodies.advance h
  let warnings ← runBodySteps step.toList
  return { o with bodies, warnings := o.warnings ++ warnings }

/-- Takes the step whose turn it is. -/
def advance (givesUp : Bool) (o : Output) : Turn → m Output
  | .scenario => if o.isGivenUp givesUp then return o else o.advanceScenario
  | .feeder => if o.isGivenUp givesUp then return o else o.advanceFeeder
  | .body h => o.advanceBody h

/-- Takes the steps of several turns. -/
def play (givesUp : Bool) (o : Output) : List Turn → m Output
  | [] => return o
  | turn :: turns => do play givesUp (← o.advance givesUp turn) turns

/-- The turns that finish both files. -/
def fileTurns : List Turn := [.scenario, .scenario, .feeder, .feeder]

/-- Waits for the work on the bodies. -/
def joinBodies (o : Output) : m Output := do
  let (steps, bodies) := o.bodies.join
  let warnings ← runBodySteps steps
  return { o with bodies, warnings := o.warnings ++ warnings }

/-- Writes the whole output. -/
def run (schedule : Schedule) (o : Output) : m Output := do
  let o ← o.play schedule.givesUp (schedule.turns ++ fileTurns)
  o.joinBodies

end Output

end LoadScenario
