import LoadScenario.Files.Access
import LoadScenario.Request.Basic
import LoadScenario.Warning
import LoadScenario.Work.Join

/-!
# Work on body files

A request with a body is sent from a file. If the content of the body is known and not empty, one
task writes the file; a write that fails is passed over. In any case another task looks, after the
write if there is one, whether the file can be opened for writing, and if not the user is asked to
provide it.
-/

namespace LoadScenario

open Work

/-- What a task does with a body file. -/
inductive BodyStep where
  | write (path : Path) (content : String)
  | check (request : String) (path : Path)
  deriving DecidableEq

namespace BodyStep

/-- Does it, and answers with the warning that it gives rise to. -/
def run {m : Type → Type} [Monad m] [FileAccess m] : BodyStep → m (Option Warning)
  | write path content => do
    let _ ← FileAccess.write path content
    return none
  | check request path => do
    return if ← FileAccess.acceptsWrites path then none else some (.missingFile request path.text)

end BodyStep

/-- Does several things in order, and answers with the warnings. -/
def runBodySteps {m : Type → Type} [Monad m] [FileAccess m] : List BodyStep → m (List Warning)
  | [] => return []
  | step :: rest => do
    let warning ← step.run
    let warnings ← runBodySteps rest
    return warning.toList ++ warnings

/-- The content of a body that has to be written: an empty one leaves the file to the user. -/
def Body.contentToWrite? (b : Body) : Option String :=
  b.content.bind fun content => if content.isEmpty then none else some content

/-- The file of a body. -/
def Body.path (b : Body) (bodies : Path) (simulation : String) : Path :=
  (bodies.join simulation).join b.filename

/-- Registers the work on one body file. -/
def addBodyFile (request : String) (path : Path) (content : Option String)
    (t : Tracker BodyStep) : Tracker BodyStep :=
  match content with
  | none => (t.add (.perform (.check request path) .done)).2
  | some content =>
    let (write, t) := t.add (.perform (.write path content) .done)
    (t.add (.await write (.perform (.check request path) .done))).2

/-- Registers the work on the body of a request. -/
def addBodyWork (bodies : Path) (simulation : String) (t : Tracker BodyStep) (r : Request) :
    Tracker BodyStep :=
  match r.body with
  | none => t
  | some b => addBodyFile r.name (b.path bodies simulation) b.contentToWrite? t

/-- The work on the bodies of requests. -/
def bodyWork (bodies : Path) (simulation : String) (rs : List Request) : Tracker BodyStep :=
  rs.foldl (addBodyWork bodies simulation) .empty

end LoadScenario
