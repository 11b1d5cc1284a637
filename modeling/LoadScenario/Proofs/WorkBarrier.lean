import LoadScenario.Proofs.WorkRun
import Mathlib.Data.List.Count
import Mathlib.Data.List.Nodup
import Mathlib.Data.Nat.Find

/-!
# Waiting is a barrier

Whoever waits for a tracker returns when all work is over, whatever happens in between: tasks have
their turns in any order, tasks are registered from inside and from outside, and the one who waits
looks whenever it likes. A `Scene` is all of that at one moment, with a log of what an observer has
seen of the tasks, who only compares what there was before an event and what is there behind it.

Two things carry the barrier. A handle is never lost: a task that is not over is pending, or it is
among those that are being waited for. And a task goes on from another one only when that one is
over, which has then been seen before.

Whether somebody who waits returns at all depends on the turns. It is enough that each task has a
turn now and then and that the one who waits looks now and then: as long as not all tasks are over,
the first one that is not can take a step.
-/

namespace LoadScenario.Work

variable {ε : Type}

/-! ## Scenes -/

/-- What can be seen of tasks: one is over, or one goes on that has waited for another. -/
inductive Sighting where
  | ended (h : Handle)
  | passed (h other : Handle)
  deriving DecidableEq

/-- What can happen. -/
inductive Event (ε : Type) where
  /-- A task is registered from outside. -/
  | add (work : Task ε)
  /-- Somebody begins to wait, unless somebody is waiting. -/
  | join
  | turn (h : Handle)
  /-- The one who waits looks. -/
  | look

/-- The task that a task waits for next. -/
def Task.awaited? : Task ε → Option Handle
  | await other _ => some other
  | _ => none

namespace Tracker

/-- The task that the task of a handle waits for. -/
def awaitedBy? (t : Tracker ε) (h : Handle) : Option Handle := (t.tasks[h]?).bind Task.awaited?

/-- The number of steps that the task of a handle can still take. -/
def weightOf (t : Tracker ε) (h : Handle) : Nat := ((t.tasks[h]?).map Task.weight).getD 0

/-- Whether a task is over that was not before. -/
def endsIn (t t' : Tracker ε) (h : Handle) : Bool :=
  t'.isOver h && !(decide (h < t.tasks.size) && t.isOver h)

/-- Whether a task that was waiting has fewer steps to take than before. -/
def passed? (t t' : Tracker ε) (h : Handle) : Option Sighting :=
  if t'.weightOf h < t.weightOf h then (t.awaitedBy? h).map (.passed h) else none

/-- What can be seen of the tasks before and behind an event. -/
def sightings (t t' : Tracker ε) : List Sighting :=
  (List.range t.tasks.size).filterMap (t.passed? t') ++
    ((List.range t'.tasks.size).filter (t.endsIn t')).map .ended

end Tracker

namespace Joiner

/-- The handles that somebody is waiting for. -/
def batch : Joiner → List Handle
  | waiting batch => batch
  | returned => []

/-- Somebody begins to wait. -/
def begin : Joiner → Joiner
  | waiting batch => waiting batch
  | returned => start

end Joiner

/-- Tasks, the one who waits for them, and what has been seen so far. -/
structure Scene (ε : Type) where
  tracker : Tracker ε
  joiner : Joiner
  log : List Sighting

namespace Scene

/-- There are no tasks, and nobody waits. -/
def empty : Scene ε := ⟨.empty, .returned, []⟩

/-- What becomes of the one who waits and of the tasks. -/
def react (s : Scene ε) : Event ε → Joiner × Tracker ε
  | .add work => (s.joiner, (s.tracker.add work).2)
  | .join => (s.joiner.begin, s.tracker)
  | .turn h => (s.joiner, (s.tracker.advance h).2)
  | .look => s.joiner.poll s.tracker

def step (s : Scene ε) (e : Event ε) : Scene ε :=
  let (joiner, tracker) := s.react e
  ⟨tracker, joiner, s.log ++ s.tracker.sightings tracker⟩

def run (s : Scene ε) (es : List (Event ε)) : Scene ε := es.foldl step s

/-- A task that has its turn waits for an earlier one, if it waits. -/
def Allows (s : Scene ε) : Event ε → Prop
  | .turn h => ∀ other ∈ s.tracker.awaitedBy? h, other < h
  | _ => True

/-- Tasks wait for earlier ones whenever they have their turn. -/
def AllowsAll (s : Scene ε) : List (Event ε) → Prop
  | [] => True
  | e :: es => s.Allows e ∧ (s.step e).AllowsAll es

instance decidableAllows (s : Scene ε) : (e : Event ε) → Decidable (s.Allows e)
  | .turn h => inferInstanceAs (Decidable (∀ other ∈ s.tracker.awaitedBy? h, other < h))
  | .add _ | .join | .look => inferInstanceAs (Decidable True)

instance decidableAllowsAll : (s : Scene ε) → (es : List (Event ε)) → Decidable (s.AllowsAll es)
  | _, [] => inferInstanceAs (Decidable True)
  | s, e :: es =>
    have := decidableAllowsAll (s.step e) es
    inferInstanceAs (Decidable (s.Allows e ∧ (s.step e).AllowsAll es))

theorem run_append (s : Scene ε) (es es' : List (Event ε)) :
    s.run (es ++ es') = (s.run es).run es' := List.foldl_append

theorem AllowsAll.left {s : Scene ε} {es es' : List (Event ε)} (h : s.AllowsAll (es ++ es')) :
    s.AllowsAll es := by
  induction es generalizing s with
  | nil => trivial
  | cons e es ih => exact ⟨h.1, ih h.2⟩

theorem AllowsAll.right {s : Scene ε} {es es' : List (Event ε)} (h : s.AllowsAll (es ++ es')) :
    (s.run es).AllowsAll es' := by
  induction es generalizing s with
  | nil => exact h
  | cons e es ih => exact ih h.2

end Scene

/-! ## What an event does to the tasks -/

namespace Tracker

variable {t t' : Tracker ε} {h : Handle}

/-- No event takes a task away or anything back, and a task goes on from another one only if that
one is over. -/
structure Proceeds (t t' : Tracker ε) : Prop where
  size_le : t.tasks.size ≤ t'.tasks.size
  isOver : ∀ h < t.tasks.size, t.isOver h → t'.isOver h
  passed : ∀ h other, t.awaitedBy? h = some other → t'.weightOf h < t.weightOf h →
    other < t.tasks.size ∧ t.isOver other

theorem isOver_congr (h : t'.tasks = t.tasks) (k : Handle) : t'.isOver k = t.isOver k := by
  rw [isOver, isOver, h]

/-- Events that leave the tasks as they are. -/
theorem proceeds_of_tasks_eq (htasks : t'.tasks = t.tasks) : t.Proceeds t' where
  size_le := Nat.le_of_eq (congrArg Array.size htasks).symm
  isOver k _ hover := by rwa [isOver_congr htasks]
  passed k other _ hless := by
    rw [weightOf, weightOf, htasks] at hless
    exact absurd hless (Nat.lt_irrefl _)

theorem proceeds_add (t : Tracker ε) (work : Task ε) : t.Proceeds (t.add work).2 where
  size_le := by
    rw [size_add]
    exact Nat.le_succ _
  isOver k hk hover := by rwa [Tracker.isOver, getElem?_add_of_lt hk]
  passed k other hawaits hless := by
    have hk : k < t.tasks.size := by
      obtain ⟨task, htask, -⟩ := Option.bind_eq_some_iff.mp hawaits
      exact lt_size_of_getElem? htask
    rw [weightOf, weightOf, getElem?_add_of_lt hk] at hless
    exact absurd hless (Nat.lt_irrefl _)

theorem proceeds_advance (hearlier : ∀ other ∈ t.awaitedBy? h, other < h) :
    t.Proceeds (t.advance h).2 where
  size_le := size_le_advance t h
  isOver k hk hover := isOver_advance hk hover h
  passed k other hawaits hless := by
    obtain ⟨task, htask, hother⟩ := Option.bind_eq_some_iff.mp hawaits
    have hk := lt_size_of_getElem? htask
    by_cases hne : k = h
    · subst hne
      refine ⟨Nat.lt_trans (hearlier other hawaits) hk, ?_⟩
      have hadvances := t.advances k
      generalize (t.advance k).1 = effect, (t.advance k).2 = t' at hadvances hless
      cases hadvances with
      | ended | waits => exact absurd hless (Nat.lt_irrefl _)
      | performs htask' | registers htask' =>
          obtain rfl := Option.some.inj (htask.symm.trans htask')
          cases hother
      | goesOn htask' hover =>
          obtain rfl := Option.some.inj (htask.symm.trans htask')
          obtain rfl := Option.some.inj hother
          exact hover
    · rw [weightOf, weightOf, getElem?_advance_of_ne hk hne] at hless
      exact absurd hless (Nat.lt_irrefl _)

/-- What is over stays over, what is pending stays pending, and so is each task that is new. -/
def LosesNone (t t' : Tracker ε) : Prop :=
  ∀ h < t'.tasks.size, h ∈ t'.pending ∨
    h < t.tasks.size ∧ (t.isOver h → t'.isOver h) ∧ (h ∈ t.pending → h ∈ t'.pending)

theorem losesNone_add (t : Tracker ε) (work : Task ε) : t.LosesNone (t.add work).2 := by
  intro h hh
  rw [size_add] at hh
  rcases Nat.lt_succ_iff_lt_or_eq.mp hh with hlt | rfl
  · exact .inr ⟨hlt, (proceeds_add t work).isOver h hlt, List.mem_append_left _⟩
  · exact .inl (List.mem_append_right _ (List.mem_singleton_self _))

theorem losesNone_advance (t : Tracker ε) (k : Handle) : t.LosesNone (t.advance k).2 := by
  intro h hh
  rcases Nat.lt_or_ge h t.tasks.size with hlt | hge
  · exact .inr ⟨hlt, fun hover => isOver_advance hlt hover k,
      fun hpending => mem_pending_advance.mpr (.inl hpending)⟩
  · exact .inl (mem_pending_advance.mpr (.inr ⟨hge, hh⟩))

end Tracker

/-- What can come of looking. -/
inductive Joiner.Polls (t : Tracker ε) : Joiner → Joiner → Tracker ε → Prop where
  | idle : Polls t .returned .returned t
  | waits {batch : List Handle} {h : Handle} (hmem : h ∈ batch) (hleft : t.isOver h = false) :
    Polls t (.waiting batch) (.waiting batch) t
  | returns {batch : List Handle} (hbatch : ∀ h ∈ batch, t.isOver h) (hpending : t.pending = []) :
    Polls t (.waiting batch) .returned t
  | takes {batch : List Handle} (hbatch : ∀ h ∈ batch, t.isOver h) (hpending : t.pending ≠ []) :
    Polls t (.waiting batch) (.waiting t.pending) t.taken

theorem Joiner.polls (j : Joiner) (t : Tracker ε) : j.Polls t (j.poll t).1 (j.poll t).2 := by
  cases j with
  | returned => exact .idle
  | waiting batch =>
      cases hall : batch.all t.isOver with
      | false =>
          obtain ⟨h, hmem, hleft⟩ := List.all_eq_false.mp hall
          simp only [poll, hall]
          exact .waits hmem (Bool.eq_false_iff.mpr hleft)
      | true =>
          have hbatch := List.all_eq_true.mp hall
          cases hpending : t.pending with
          | nil =>
              simp only [poll, hall, hpending]
              exact .returns hbatch hpending
          | cons h more =>
              simp only [poll, hall, hpending]
              rw [← hpending]
              exact .takes hbatch (by rw [hpending]; exact List.cons_ne_nil _ _)

theorem Joiner.tasks_poll (j : Joiner) (t : Tracker ε) : (j.poll t).2.tasks = t.tasks := by
  have hpolls := j.polls t
  generalize (j.poll t).1 = j', (j.poll t).2 = t' at hpolls
  cases hpolls <;> rfl

namespace Tracker

variable {t t' : Tracker ε} {h : Handle}

/-! ## What is seen -/

theorem passed_of_mem_sightings {h other : Handle} (hmem : .passed h other ∈ t.sightings t') :
    t.awaitedBy? h = some other ∧ t'.weightOf h < t.weightOf h := by
  rcases List.mem_append.mp hmem with hpassed | hended
  · obtain ⟨k, -, hk⟩ := List.mem_filterMap.mp hpassed
    rw [passed?] at hk
    split at hk
    next hless =>
      obtain ⟨other', hother, heq⟩ := Option.map_eq_some_iff.mp hk
      cases heq
      exact ⟨hother, hless⟩
    next => cases hk
  · obtain ⟨k, -, hk⟩ := List.mem_map.mp hended
    cases hk

theorem count_sightings (t t' : Tracker ε) (h : Handle) :
    (t.sightings t').count (.ended h) =
      if h < t'.tasks.size ∧ t.endsIn t' h then 1 else 0 := by
  have hpassed : ((List.range t.tasks.size).filterMap (t.passed? t')).count (.ended h) = 0 := by
    refine List.count_eq_zero.mpr fun hmem => ?_
    obtain ⟨k, -, hk⟩ := List.mem_filterMap.mp hmem
    rw [passed?] at hk
    split at hk
    next =>
      obtain ⟨other, -, heq⟩ := Option.map_eq_some_iff.mp hk
      cases heq
    next => cases hk
  have hinjective : Function.Injective Sighting.ended := fun _ _ heq => by cases heq; rfl
  have hnodup := (List.nodup_range (n := t'.tasks.size)).filter (t.endsIn t')
  rw [sightings, List.count_append, hpassed, Nat.zero_add,
    List.count_map_of_injective _ _ hinjective, hnodup.count]
  simp only [List.mem_filter, List.mem_range]

end Tracker

/-! ## The invariant -/

namespace Scene

/-- What holds of every scene that has come about. -/
structure Orderly (s : Scene ε) : Prop where
  awaited : ∀ h < s.tracker.tasks.size,
    s.tracker.isOver h ∨ h ∈ s.tracker.pending ∨ h ∈ s.joiner.batch
  counted : ∀ h, s.log.count (.ended h) =
    if h < s.tracker.tasks.size ∧ s.tracker.isOver h then 1 else 0
  ordered : ∀ (i : Nat) (h other : Handle), s.log[i]? = some (Sighting.passed h other) →
    ∃ j < i, s.log[j]? = some (Sighting.ended other)

variable {s : Scene ε} {e : Event ε}

theorem proceeds_react (hallows : s.Allows e) : s.tracker.Proceeds (s.react e).2 := by
  cases e with
  | add work => exact Tracker.proceeds_add s.tracker work
  | join => exact Tracker.proceeds_of_tasks_eq rfl
  | turn h => exact Tracker.proceeds_advance hallows
  | look => exact Tracker.proceeds_of_tasks_eq (s.joiner.tasks_poll s.tracker)

/-- A handle is not lost: what is registered becomes pending, and what is pending is waited for
next. -/
theorem awaited_step (h : s.Orderly) (hallows : s.Allows e) :
    ∀ k < (s.step e).tracker.tasks.size, (s.step e).tracker.isOver k ∨
      k ∈ (s.step e).tracker.pending ∨ k ∈ (s.step e).joiner.batch := by
  intro k hk
  cases e with
  | add work =>
      rcases s.tracker.losesNone_add work k hk with hnew | ⟨hlt, hover, hpending⟩
      · exact .inr (.inl hnew)
      · exact (h.awaited k hlt).imp hover (Or.imp_left hpending)
  | join =>
      refine (h.awaited k hk).imp_right (Or.imp_right fun hmem => ?_)
      show k ∈ s.joiner.begin.batch
      cases hjoiner : s.joiner with
      | waiting batch => rwa [hjoiner] at hmem
      | returned =>
          rw [hjoiner] at hmem
          cases hmem
  | turn h' =>
      rcases s.tracker.losesNone_advance h' k hk with hnew | ⟨hlt, hover, hpending⟩
      · exact .inr (.inl hnew)
      · exact (h.awaited k hlt).imp hover (Or.imp_left hpending)
  | look =>
      have hpolls := s.joiner.polls s.tracker
      have hawaited := h.awaited k
      change k < (s.joiner.poll s.tracker).2.tasks.size at hk
      show (s.joiner.poll s.tracker).2.isOver k ∨ k ∈ (s.joiner.poll s.tracker).2.pending ∨
        k ∈ (s.joiner.poll s.tracker).1.batch
      generalize (s.joiner.poll s.tracker).1 = j', (s.joiner.poll s.tracker).2 = t at *
      generalize s.joiner = j at *
      cases hpolls with
      | idle | waits => exact hawaited hk
      | returns hbatch hpending =>
          rcases hawaited hk with hover | hmem | hmem
          · exact .inl hover
          · rw [hpending] at hmem
            cases hmem
          · exact .inl (hbatch k hmem)
      | takes hbatch _ =>
          -- The old batch can be dropped, since each handle in it is over.
          rcases hawaited hk with hover | hmem | hmem
          · exact .inl hover
          · exact .inr (.inr hmem)
          · exact .inl (hbatch k hmem)

theorem counted_step (h : s.Orderly) (hallows : s.Allows e) :
    ∀ k, (s.step e).log.count (.ended k) =
      if k < (s.step e).tracker.tasks.size ∧ (s.step e).tracker.isOver k then 1 else 0 := by
  intro k
  have hproceeds := proceeds_react hallows
  show (s.log ++ s.tracker.sightings (s.react e).2).count (.ended k) =
    if k < (s.react e).2.tasks.size ∧ (s.react e).2.isOver k then 1 else 0
  generalize (s.react e).2 = t at hproceeds
  rw [List.count_append, h.counted, Tracker.count_sightings, Tracker.endsIn]
  -- What is over stays over, and only what was not can be seen to end.
  by_cases hbefore : k < s.tracker.tasks.size ∧ s.tracker.isOver k
  · have hlt := Nat.lt_of_lt_of_le hbefore.1 hproceeds.size_le
    have hover := hproceeds.isOver k hbefore.1 hbefore.2
    simp [hbefore, hlt, hover]
  · have hfresh : (decide (k < s.tracker.tasks.size) && s.tracker.isOver k) = false := by
      simpa using hbefore
    simp [hbefore, hfresh]

theorem ordered_step (h : s.Orderly) (hallows : s.Allows e) (i : Nat) (k other : Handle)
    (hi : (s.step e).log[i]? = some (Sighting.passed k other)) :
    ∃ j < i, (s.step e).log[j]? = some (Sighting.ended other) := by
  have hproceeds := proceeds_react hallows
  have hlog : (s.step e).log = s.log ++ s.tracker.sightings (s.react e).2 := rfl
  generalize (s.react e).2 = t at hproceeds hlog
  rw [hlog] at hi ⊢
  rcases Nat.lt_or_ge i s.log.length with hlt | hge
  · rw [List.getElem?_append_left hlt] at hi
    obtain ⟨j, hj, hended⟩ := h.ordered i k other hi
    exact ⟨j, hj, by rwa [List.getElem?_append_left (Nat.lt_trans hj hlt)]⟩
  -- A task goes on now. What it has waited for was over before, and so it has been seen to end.
  · rw [List.getElem?_append_right hge] at hi
    obtain ⟨hawaits, hless⟩ := Tracker.passed_of_mem_sightings (List.mem_of_getElem? hi)
    obtain ⟨hregistered, hover⟩ := hproceeds.passed k other hawaits hless
    have hseen : Sighting.ended other ∈ s.log := by
      rw [← List.count_pos_iff, h.counted, if_pos ⟨hregistered, hover⟩]
      exact Nat.one_pos
    obtain ⟨j, hj⟩ := List.mem_iff_getElem?.mp hseen
    have hlt := (List.getElem?_eq_some_iff.mp hj).1
    exact ⟨j, Nat.lt_of_lt_of_le hlt hge, by rwa [List.getElem?_append_left hlt]⟩

theorem Orderly.step (h : s.Orderly) (hallows : s.Allows e) : (s.step e).Orderly :=
  ⟨awaited_step h hallows, counted_step h hallows, ordered_step h hallows⟩

theorem Orderly.run {es : List (Event ε)} (h : s.Orderly) (hallows : s.AllowsAll es) :
    (s.run es).Orderly := by
  induction es generalizing s with
  | nil => exact h
  | cons e es ih => exact ih (h.step hallows.1) hallows.2

theorem orderly_empty : (empty : Scene ε).Orderly where
  awaited _ hh := absurd hh (Nat.not_lt_zero _)
  counted _ := (if_neg fun h => Nat.not_lt_zero _ h.1).symm
  ordered _ _ _ := nofun

/-- What there is to say when somebody who waited returns: no handle is left, each task has
completed or broken off, has been seen to end once, and has gone on from another one behind the end
of that one. -/
structure Settled (s : Scene ε) : Prop where
  pending : s.tracker.pending = []
  ended : ∀ h < s.tracker.tasks.size,
    s.tracker.tasks[h]? = some .done ∨ s.tracker.tasks[h]? = some .broken
  once : ∀ h < s.tracker.tasks.size, s.log.count (.ended h) = 1
  ordered : ∀ (i : Nat) (h other : Handle), s.log[i]? = some (Sighting.passed h other) →
    ∃ j < i, s.log[j]? = some (Sighting.ended other)

theorem Orderly.settled_look (h : s.Orderly) (hwaiting : s.joiner ≠ .returned)
    (hreturned : (s.step .look).joiner = .returned) : (s.step .look).Settled := by
  have hafter : (s.step .look).Orderly := h.step trivial
  have hpending : (s.step .look).tracker.pending = [] := by
    have hpolls := s.joiner.polls s.tracker
    change (s.joiner.poll s.tracker).1 = .returned at hreturned
    show (s.joiner.poll s.tracker).2.pending = []
    generalize (s.joiner.poll s.tracker).1 = j', (s.joiner.poll s.tracker).2 = t at *
    generalize s.joiner = j at *
    cases hpolls with
    | idle => exact absurd rfl hwaiting
    | waits | takes => cases hreturned
    | returns _ hpending => exact hpending
  have hover : ∀ k < (s.step .look).tracker.tasks.size, (s.step .look).tracker.isOver k := by
    intro k hk
    rcases hafter.awaited k hk with hover | hmem | hmem
    · exact hover
    · rw [hpending] at hmem
      cases hmem
    · rw [hreturned] at hmem
      cases hmem
  refine ⟨hpending, fun k hk => ?_, fun k hk => ?_, hafter.ordered⟩
  · have htask := hover k hk
    rw [Tracker.isOver, Array.getElem?_eq_getElem hk] at htask
    rw [Array.getElem?_eq_getElem hk]
    cases hk' : (s.step .look).tracker.tasks[k] with
    | done => exact .inl rfl
    | broken => exact .inr rfl
    | perform | await | register =>
        rw [hk'] at htask
        cases htask
  · rw [hafter.counted, if_pos ⟨hk, hover k hk⟩]

end Scene

/-! ## Breaking off -/

/-- The task that completes where the given one breaks off. -/
def Task.calm : Task ε → Task ε
  | done | broken => done
  | perform effect rest => perform effect rest.calm
  | await other rest => await other rest.calm
  | register child rest => register child.calm rest.calm

def Tracker.calm (t : Tracker ε) : Tracker ε := ⟨t.tasks.map Task.calm, t.pending⟩

def Event.calm : Event ε → Event ε
  | add work => add work.calm
  | e => e

def Scene.calm (s : Scene ε) : Scene ε := ⟨s.tracker.calm, s.joiner, s.log⟩

namespace Task

theorem isOver_calm (task : Task ε) : task.calm.isOver = task.isOver := by
  cases task <;> rfl

theorem awaited?_calm (task : Task ε) : task.calm.awaited? = task.awaited? := by
  cases task <;> rfl

theorem weight_calm (task : Task ε) : task.calm.weight = task.weight := by
  induction task with
  | done | broken => rfl
  | perform _ _ ih | await _ _ ih => rw [calm, weight, weight, ih]
  | register _ _ ihchild ihrest => rw [calm, weight, weight, ihchild, ihrest]

end Task

namespace Tracker

variable (t : Tracker ε) (h : Handle)

theorem getElem?_calm : t.calm.tasks[h]? = (t.tasks[h]?).map Task.calm := Array.getElem?_map

theorem size_calm : t.calm.tasks.size = t.tasks.size := Array.size_map

theorem isOver_calm : t.calm.isOver h = t.isOver h := by
  rw [isOver, isOver, getElem?_calm]
  cases t.tasks[h]? with
  | none => rfl
  | some task => exact task.isOver_calm

theorem awaitedBy?_calm : t.calm.awaitedBy? h = t.awaitedBy? h := by
  rw [awaitedBy?, awaitedBy?, getElem?_calm]
  cases t.tasks[h]? with
  | none => rfl
  | some task => exact task.awaited?_calm

theorem weightOf_calm : t.calm.weightOf h = t.weightOf h := by
  rw [weightOf, weightOf, getElem?_calm]
  cases t.tasks[h]? with
  | none => rfl
  | some task => exact task.weight_calm

theorem sightings_calm (t' : Tracker ε) : t.calm.sightings t'.calm = t.sightings t' := by
  have hpassed : t.calm.passed? t'.calm = t.passed? t' := by
    funext h
    rw [passed?, passed?, weightOf_calm, weightOf_calm, awaitedBy?_calm]
  have hends : t.calm.endsIn t'.calm = t.endsIn t' := by
    funext h
    rw [endsIn, endsIn, isOver_calm, isOver_calm, size_calm]
  rw [sightings, sightings, size_calm, size_calm, hpassed, hends]

theorem add_calm (work : Task ε) : (t.calm.add work.calm).2 = (t.add work).2.calm := by
  simp only [add, calm, Array.map_push, Array.size_map]

theorem update_calm (task : Task ε) : t.calm.update h task.calm = (t.update h task).calm := by
  simp only [update, calm, Array.map_setIfInBounds]

theorem advance_calm : (t.calm.advance h).2 = (t.advance h).2.calm := by
  rw [advance, advance, getElem?_calm]
  cases t.tasks[h]? with
  | none => rfl
  | some task =>
      cases task with
      | done | broken => rfl
      | perform effect rest => exact t.update_calm h rest
      | await other rest =>
          simp only [Option.map_some, Task.calm, isOver_calm]
          split
          · exact t.update_calm h rest
          · rfl
      | register child rest =>
          simp only [Option.map_some, Task.calm]
          rw [update_calm, add_calm]

theorem poll_calm (j : Joiner) : j.poll t.calm = ((j.poll t).1, (j.poll t).2.calm) := by
  cases j with
  | returned => rfl
  | waiting batch =>
      have hover : t.calm.isOver = t.isOver := funext t.isOver_calm
      have hpending : t.calm.pending = t.pending := rfl
      simp only [Joiner.poll, hover, hpending]
      cases batch.all t.isOver with
      | false => rfl
      | true => cases t.pending <;> rfl

end Tracker

namespace Scene

theorem step_calm (s : Scene ε) (e : Event ε) : s.calm.step e.calm = (s.step e).calm := by
  have hreact : s.calm.react e.calm = ((s.react e).1, (s.react e).2.calm) := by
    cases e with
    | add work => exact congrArg (s.joiner, ·) (s.tracker.add_calm work)
    | join => rfl
    | turn h => exact congrArg (s.joiner, ·) (s.tracker.advance_calm h)
    | look => exact s.tracker.poll_calm s.joiner
  show Scene.mk (s.calm.react e.calm).2 (s.calm.react e.calm).1
    (s.log ++ s.tracker.calm.sightings (s.calm.react e.calm).2) = _
  rw [hreact, Tracker.sightings_calm]
  rfl

theorem run_calm (s : Scene ε) (es : List (Event ε)) :
    s.calm.run (es.map Event.calm) = (s.run es).calm := by
  induction es generalizing s with
  | nil => rfl
  | cons e es ih =>
      show (s.calm.step e.calm).run (es.map Event.calm) = _
      rw [step_calm, ih]
      rfl

end Scene

/-! ## Returning -/

/-- Something that happens while somebody waits and nobody registers anything from outside. -/
def Event.Inner (e : Event ε) : Prop := e = .look ∨ ∃ h, e = .turn h

namespace Tracker

variable {t : Tracker ε} {h : Handle}

theorem lt_size_of_isOver_eq_false (hleft : t.isOver h = false) : h < t.tasks.size := by
  by_contra hge
  rw [isOver, Array.getElem?_eq_none (Nat.le_of_not_lt hge)] at hleft
  cases hleft

theorem weight_congr {t' : Tracker ε} (h : t'.tasks = t.tasks) : t'.weight = t.weight := by
  rw [weight, weight, h]

end Tracker

namespace Scene

variable {s : Scene ε} {e : Event ε}

/-- Nothing that happens inside adds to the steps that are left. -/
theorem step_cases (he : e.Inner) :
    (s.step e).tracker.tasks = s.tracker.tasks ∨ (s.step e).tracker.weight < s.tracker.weight := by
  obtain rfl | ⟨h, rfl⟩ := he
  · exact .inl (s.joiner.tasks_poll s.tracker)
  · exact (s.tracker.advance_cases h).imp (fun hsame => congrArg Tracker.tasks hsame.1)
      fun hless => hless.2.1

theorem weight_run_le {es : List (Event ε)} (hes : ∀ e ∈ es, e.Inner) :
    (s.run es).tracker.weight ≤ s.tracker.weight := by
  induction es generalizing s with
  | nil => exact Nat.le_refl _
  | cons e es ih =>
      refine Nat.le_trans (ih fun e he => hes e (List.mem_cons_of_mem _ he)) ?_
      rcases s.step_cases (hes e List.mem_cons_self) with hsame | hless
      · exact Nat.le_of_eq (Tracker.weight_congr hsame)
      · exact Nat.le_of_lt hless

/-- The first task that is not over takes a step when it has its turn. -/
theorem weight_step_lt {h : Handle} (hallows : s.Allows (.turn h))
    (hearlier : ∀ k < h, s.tracker.isOver k) (hleft : s.tracker.isOver h = false) :
    (s.step (.turn h)).tracker.weight < s.tracker.weight := by
  obtain ⟨-, hover | ⟨other, rest, htask, hwaits⟩⟩ | ⟨-, hless, -⟩ := s.tracker.advance_cases h
  · rw [hleft] at hover
    cases hover
  · have hother : other ∈ s.tracker.awaitedBy? h := Option.bind_eq_some_iff.mpr ⟨_, htask, rfl⟩
    rw [hearlier other (hallows other hother)] at hwaits
    cases hwaits
  · exact hless

/-- So a step is taken when it has a turn among others. -/
theorem weight_run_lt {es : List (Event ε)} {h : Handle} (hes : ∀ e ∈ es, e.Inner)
    (hallows : s.AllowsAll es) (hearlier : ∀ k < h, s.tracker.isOver k)
    (hleft : s.tracker.isOver h = false) (hturn : .turn h ∈ es) :
    (s.run es).tracker.weight < s.tracker.weight := by
  induction es generalizing s with
  | nil => cases hturn
  | cons e es ih =>
      have hlater := fun e he => hes e (List.mem_cons_of_mem _ he)
      have hrest : ((s.step e).run es).tracker.weight ≤ (s.step e).tracker.weight :=
        weight_run_le hlater
      rcases List.mem_cons.mp hturn with rfl | hturn
      · exact Nat.lt_of_le_of_lt hrest (weight_step_lt hallows.1 hearlier hleft)
      · rcases step_cases (s := s) (hes e List.mem_cons_self) with hsame | hless
        · rw [← Tracker.weight_congr hsame]
          refine ih hlater hallows.2 (fun k hk => ?_) ?_ hturn
          · rw [Tracker.isOver_congr hsame]
            exact hearlier k hk
          · rw [Tracker.isOver_congr hsame]
            exact hleft
        · exact Nat.lt_of_le_of_lt hrest hless

/-- How often the one who waits looks before it returns when all tasks are over. -/
def looksLeft (s : Scene ε) : Nat :=
  match s.joiner with
  | .returned => 0
  | .waiting _ => if s.tracker.pending.isEmpty then 1 else 2

theorem looksLeft_le_two (s : Scene ε) : s.looksLeft ≤ 2 := by
  rw [looksLeft]
  split
  · exact Nat.zero_le _
  · split <;> omega

theorem looksLeft_look (hover : ∀ h, s.tracker.isOver h) :
    (s.step .look).looksLeft ≤ s.looksLeft - 1 := by
  have hpolls := s.joiner.polls s.tracker
  show (Scene.mk (s.joiner.poll s.tracker).2 (s.joiner.poll s.tracker).1 _).looksLeft ≤ _
  rw [looksLeft, looksLeft]
  generalize (s.joiner.poll s.tracker).1 = j', (s.joiner.poll s.tracker).2 = t at *
  generalize s.joiner = j at *
  cases hpolls with
  | idle | returns => exact Nat.zero_le _
  | @waits _ h _ hleft =>
      rw [hover h] at hleft
      cases hleft
  | takes _ hpending =>
      rw [List.isEmpty_eq_false_iff.mpr hpending]
      exact Nat.le_refl 1

/-- When all tasks are over a turn changes nothing, and each look brings the return nearer. -/
theorem step_of_over (hover : ∀ h, s.tracker.isOver h) (he : e.Inner) :
    (s.step e).tracker.tasks = s.tracker.tasks ∧ (s.step e).looksLeft ≤ s.looksLeft ∧
      (e = .look → (s.step e).looksLeft ≤ s.looksLeft - 1) := by
  obtain rfl | ⟨h, rfl⟩ := he
  · have hlook := looksLeft_look hover
    exact ⟨s.joiner.tasks_poll s.tracker, Nat.le_trans hlook (Nat.sub_le _ 1), fun _ => hlook⟩
  · obtain ⟨hsame, -⟩ | ⟨hleft, -⟩ := s.tracker.advance_cases h
    · have hlooks : (Scene.mk (s.tracker.advance h).2 s.joiner
          (s.log ++ s.tracker.sightings (s.tracker.advance h).2)).looksLeft ≤ s.looksLeft := by
        rw [hsame]
        exact Nat.le_refl _
      exact ⟨congrArg Tracker.tasks hsame, hlooks, nofun⟩
    · rw [hover h] at hleft
      cases hleft

theorem run_of_over {es : List (Event ε)} (hover : ∀ h, s.tracker.isOver h)
    (hes : ∀ e ∈ es, e.Inner) :
    (∀ h, (s.run es).tracker.isOver h) ∧ (s.run es).looksLeft ≤ s.looksLeft ∧
      (.look ∈ es → (s.run es).looksLeft ≤ s.looksLeft - 1) := by
  induction es generalizing s with
  | nil => exact ⟨hover, Nat.le_refl _, nofun⟩
  | cons e es ih =>
      obtain ⟨hsame, hle, hlook⟩ := step_of_over hover (hes e List.mem_cons_self)
      obtain ⟨hafter, hrest, hrestLook⟩ := ih (s := s.step e)
        (fun h => by rw [Tracker.isOver_congr hsame, hover])
        fun e he => hes e (List.mem_cons_of_mem _ he)
      refine ⟨hafter, Nat.le_trans hrest hle, fun hmem => ?_⟩
      rcases List.mem_cons.mp hmem with rfl | hmem
      · exact Nat.le_trans hrest (hlook rfl)
      · exact Nat.le_trans (hrestLook hmem) (Nat.sub_le_sub_right hle 1)

/-- Each task has a turn and the one who waits looks, in any order, and nothing is registered from
outside. -/
structure Sweeps (s : Scene ε) (es : List (Event ε)) : Prop where
  turns : ∀ h < s.tracker.tasks.size, .turn h ∈ es
  look : .look ∈ es
  inner : ∀ e ∈ es, e.Inner

/-- One sweep after the other. -/
def SweepsOn (s : Scene ε) : List (List (Event ε)) → Prop
  | [] => True
  | es :: sweeps => s.Sweeps es ∧ (s.run es).SweepsOn sweeps

/-- Whoever waits returns after a number of sweeps. -/
theorem returned_of_sweeps {sweeps : List (List (Event ε))} (hsweeps : s.SweepsOn sweeps)
    (hallows : s.AllowsAll sweeps.flatten)
    (hlength : s.tracker.weight + 2 ≤ sweeps.length ∨
      (∀ h, s.tracker.isOver h) ∧ s.looksLeft ≤ sweeps.length) :
    (s.run sweeps.flatten).joiner = .returned := by
  induction sweeps generalizing s with
  | nil =>
      rcases hlength with hlength | ⟨-, hlooks⟩
      · cases hlength
      · change s.looksLeft ≤ 0 at hlooks
        show s.joiner = .returned
        rw [looksLeft] at hlooks
        split at hlooks
        next hreturned => exact hreturned
        next =>
          split at hlooks
          · cases hlooks
          · cases hlooks
  | cons es sweeps ih =>
      rw [List.flatten_cons] at hallows ⊢
      rw [run_append]
      refine ih hsweeps.2 hallows.right ?_
      have hlooks := s.looksLeft_le_two
      rw [List.length_cons] at hlength
      by_cases hover : ∀ h, s.tracker.isOver h
      · obtain ⟨hafter, -, hlook⟩ := run_of_over hover hsweeps.1.inner
        have hless := hlook hsweeps.1.look
        exact .inr ⟨hafter, by omega⟩
      · -- The first task that is not over takes a step in this sweep.
        have hleft : ∃ h, s.tracker.isOver h = false := by simpa using hover
        have hfirst := Nat.find_spec hleft
        have hearlier : ∀ k < Nat.find hleft, s.tracker.isOver k := fun k hk =>
          Bool.of_not_eq_false (Nat.find_min hleft hk)
        have hturn := hsweeps.1.turns _ (Tracker.lt_size_of_isOver_eq_false hfirst)
        have hless := weight_run_lt hsweeps.1.inner hallows.left hearlier hfirst hturn
        rcases hlength with hlength | ⟨hall, -⟩
        · exact .inl (by omega)
        · exact absurd hall hover

theorem run_turns (s : Scene ε) (turns : List Handle) :
    (s.run (turns.map .turn)).tracker = (s.tracker.play turns).2 ∧
      (s.run (turns.map .turn)).joiner = s.joiner := by
  induction turns generalizing s with
  | nil => exact ⟨rfl, rfl⟩
  | cons h turns ih => exact ih (s.step (.turn h))

/-- A wait that gives the tasks their turns round by round is one of these runs. -/
theorem exists_run_joinWithin (bound : Nat) (s : Scene ε) :
    ∃ es, (∀ e ∈ es, e.Inner) ∧
      (s.run es).tracker = (Tracker.joinWithin bound s.joiner s.tracker).2 := by
  induction bound generalizing s with
  | zero => exact ⟨[], nofun, rfl⟩
  | succ bound ih =>
      rcases hpoll : s.joiner.poll s.tracker with ⟨batch | _, t⟩
      · have hstep : (s.step .look).tracker = t ∧ (s.step .look).joiner = .waiting batch :=
          ⟨congrArg Prod.snd hpoll, congrArg Prod.fst hpoll⟩
        obtain ⟨htracker, hjoiner⟩ := (s.step .look).run_turns t.round
        rw [hstep.1] at htracker
        rw [hstep.2] at hjoiner
        obtain ⟨es, hes, hrun⟩ := ih ((s.step .look).run (t.round.map .turn))
        refine ⟨.look :: (t.round.map .turn ++ es), fun e he => ?_, ?_⟩
        · rcases List.mem_cons.mp he with rfl | he
          · exact .inl rfl
          · rcases List.mem_append.mp he with hturn | he
            · obtain ⟨h, -, rfl⟩ := List.mem_map.mp hturn
              exact .inr ⟨h, rfl⟩
            · exact hes e he
        · show ((s.step .look).run (t.round.map .turn ++ es)).tracker = _
          rw [run_append, hrun, htracker, hjoiner, Tracker.joinWithin, hpoll]
      · refine ⟨[.look], fun e he => .inl (List.mem_singleton.mp he), ?_⟩
        show (s.joiner.poll s.tracker).2 = _
        rw [Tracker.joinWithin, hpoll]

/-- Waiting is a barrier. Whatever happens, all is settled when somebody who waited returns, who
does not notice tasks that break off, and who returns if tasks have their turns. -/
theorem join_is_barrier (es : List (Event ε)) (hallows : empty.AllowsAll es) :
    (∀ before, before ++ [.look] <+: es → (empty.run before).joiner ≠ .returned →
      (empty.run (before ++ [.look])).joiner = .returned →
        (empty.run (before ++ [.look])).Settled) ∧
    (empty.run (es.map Event.calm)).joiner = (empty.run es).joiner ∧
    (empty.run (es.map Event.calm)).log = (empty.run es).log ∧
    ∀ before sweeps, es = before ++ sweeps.flatten → (empty.run before).SweepsOn sweeps →
      (empty.run before).tracker.weight + 2 ≤ sweeps.length →
        (empty.run es).joiner = .returned := by
  have hcalm : empty.run (es.map Event.calm) = (empty.run es).calm := by
    have hempty : (empty : Scene ε).calm = empty := by
      simp [empty, calm, Tracker.calm, Tracker.empty]
    rw [← run_calm, hempty]
  refine ⟨?_, by rw [hcalm]; rfl, by rw [hcalm]; rfl, ?_⟩
  · rintro before ⟨later, rfl⟩ hwaiting hreturned
    rw [List.append_assoc] at hallows
    have horderly : (empty.run before).Orderly := orderly_empty.run hallows.left
    rw [run_append] at hreturned ⊢
    exact horderly.settled_look hwaiting hreturned
  · rintro before sweeps rfl hsweeps hlength
    rw [run_append]
    exact returned_of_sweeps hsweeps hallows.right (.inl hlength)

/-- A task breaks off that two others wait for, and one of these registers a task that waits for the
other. -/
def brokenChain : List (Event String) :=
  [.add (.perform "write" .broken), .add (.await 0 (.perform "check" .done)),
    .add (.register (.await 1 .done) (.await 0 .done)), .join, .look, .turn 1, .turn 2, .turn 0,
    .look, .turn 2, .turn 1, .turn 3, .turn 1, .look, .turn 3]

theorem join_is_barrier_brokenChain :
    let s := (empty : Scene String).run (brokenChain ++ [.look])
    s.joiner = .returned ∧ s.Settled ∧ s.tracker.tasks[0]? = some .broken ∧
      s.log = [.ended 0, .passed 2 0, .ended 2, .passed 1 0, .ended 1, .passed 3 1, .ended 3] := by
  have hallows : empty.AllowsAll (brokenChain ++ [.look]) := by decide +kernel
  have hwaiting : (empty.run brokenChain).joiner ≠ .returned := by decide +kernel
  have hreturned : (empty.run (brokenChain ++ [.look])).joiner = .returned := by decide +kernel
  obtain ⟨hsettled, -⟩ := join_is_barrier (brokenChain ++ [.look]) hallows
  refine ⟨hreturned, hsettled brokenChain List.prefix_rfl hwaiting hreturned, rfl, ?_⟩
  decide +kernel

end Scene

end LoadScenario.Work
