import LoadScenario.Work.Task

/-!
# Waiting for deferred work

A run is not over before its deferred work is. Whoever waits takes all handles that are there at
that moment, waits until their tasks are over, and looks again, because tasks may have registered
further tasks in the meantime. The wait ends when it finds no handle left.

Several may wait on one tracker. A handle is taken by one of them only.
-/

namespace LoadScenario.Work

/-- Someone who waits for the work of a tracker. -/
inductive Joiner where
  | waiting (batch : List Handle)
  | returned
  deriving DecidableEq

namespace Joiner

variable {ε : Type}

/-- Someone who has just begun to wait. -/
def start : Joiner := waiting []

/-- Looks whether the awaited tasks are over, and if so takes the handles that are there now. -/
def poll (t : Tracker ε) : Joiner → Joiner × Tracker ε
  | returned => (returned, t)
  | waiting batch =>
    if batch.all t.isOver then
      match t.pending with
      | [] => (returned, t)
      | more => (waiting more, { t with pending := [] })
    else
      (waiting batch, t)

end Joiner

namespace Tracker

variable {ε : Type}

/-- Lets someone wait and all tasks run in between, as many rounds as the first argument allows. -/
def joinWithin : Nat → Joiner → Tracker ε → List ε × Tracker ε
  | 0, _, t => ([], t)
  | bound + 1, j, t =>
    match j.poll t with
    | (.returned, t) => ([], t)
    | (j, t) =>
      let (effects, t) := t.play t.round
      let (later, t) := joinWithin bound j t
      (effects ++ later, t)

/-- Waits until all work is over, and tells what was performed meanwhile. -/
def join (t : Tracker ε) : List ε × Tracker ε := joinWithin (t.weight + 2) .start t

end Tracker

end LoadScenario.Work
