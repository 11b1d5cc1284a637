/-!
# Deferred work

Files that accompany a scenario are written and checked while the scenario itself is being made.
Each such piece of work is a task, and a task is a list of what it still has to do: something to
perform, another task to wait for, a further task to start. A task that has nothing left to do is
over, and so is one that broke off.

A tracker knows all tasks by their handles, and it keeps the handles that nobody has waited for
yet. Nothing is said here about who runs when. A task takes one step at a time whenever it is its
turn, a step of one task may come between two steps of another, and the order of the turns is an
argument of everything that runs tasks. Performing is left to the caller: running tasks answers
with what they performed, in order.
-/

namespace LoadScenario.Work

/-- The number of a task, in the order of registration. -/
abbrev Handle := Nat

/-- What a task still has to do. -/
inductive Task (ε : Type) where
  /-- Nothing: the task has completed. -/
  | done
  /-- Nothing: the task has broken off. -/
  | broken
  | perform (effect : ε) (rest : Task ε)
  /-- Wait for another task. -/
  | await (other : Handle) (rest : Task ε)
  /-- Register another task. -/
  | register (child rest : Task ε)

namespace Task

variable {ε : Type}

/-- Whether nothing is left to do. -/
def isOver : Task ε → Bool
  | done | broken => true
  | _ => false

/-- The number of steps that a task and the tasks it registers can still take. -/
def weight : Task ε → Nat
  | done | broken => 0
  | perform _ rest => rest.weight + 1
  | await _ rest => rest.weight + 1
  | register child rest => child.weight + rest.weight + 1

end Task

/-- All tasks, and the handles that nobody has waited for. -/
structure Tracker (ε : Type) where
  tasks : Array (Task ε)
  pending : List Handle

namespace Tracker

variable {ε : Type}

/-- No tasks. -/
def empty : Tracker ε := ⟨#[], []⟩

/-- Registers a task. -/
def add (t : Tracker ε) (work : Task ε) : Handle × Tracker ε :=
  (t.tasks.size, ⟨t.tasks.push work, t.pending ++ [t.tasks.size]⟩)

/-- The number of registered tasks that nobody has waited for. -/
def pendingCount (t : Tracker ε) : Nat := t.pending.length

/-- Whether the task of a handle is over; there is nothing to wait for if there is no such task. -/
def isOver (t : Tracker ε) (h : Handle) : Bool := (t.tasks[h]?).all Task.isOver

/-- The tracker after the task of a handle has come to a new point. -/
def update (t : Tracker ε) (h : Handle) (task : Task ε) : Tracker ε :=
  { t with tasks := t.tasks.setIfInBounds h task }

/-- Gives a task its turn, and tells what it performed. A task that waits for one that is not over
lets its turn pass. -/
def advance (t : Tracker ε) (h : Handle) : Option ε × Tracker ε :=
  match t.tasks[h]? with
  | some (.perform effect rest) => (some effect, t.update h rest)
  | some (.await other rest) => (none, if t.isOver other then t.update h rest else t)
  | some (.register child rest) => (none, ((t.update h rest).add child).2)
  | _ => (none, t)

/-- Gives tasks their turns one after the other, and tells what they performed. -/
def play (t : Tracker ε) : List Handle → List ε × Tracker ε
  | [] => ([], t)
  | h :: turns =>
    let (effect, t) := t.advance h
    let (effects, t) := t.play turns
    (effect.toList ++ effects, t)

/-- The turns that bring each task to its end, one task after the other. -/
def round (t : Tracker ε) : List Handle :=
  (List.range t.tasks.size).flatMap fun h =>
    List.replicate (((t.tasks[h]?).map Task.weight).getD 0) h

/-- The number of steps that all tasks together can still take. -/
def weight (t : Tracker ε) : Nat := t.tasks.toList.foldr (fun task n => task.weight + n) 0

end Tracker

end LoadScenario.Work
