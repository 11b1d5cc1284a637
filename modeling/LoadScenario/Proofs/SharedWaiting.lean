import LoadScenario.Proofs.WorkBarrier

/-!
# Waiting together

Everybody who holds a tracker may wait for its tasks, and several may do so at the same time. They
share the handles: what one of them has taken the others do not see any more. A `Crowd` is a tracker
with all who have begun to wait for it, each with the number of tasks that were registered when it
began. Tasks, those who register them and those who wait take their steps in any order.

A handle that has been taken is still held by the one who has taken it. So whoever returns leaves no
handle behind, and what is not over is being waited for by somebody else. That is all: the one who
returns has not waited for what others hold, also if it was registered long before.
-/

namespace LoadScenario.Work

/-- One who has begun to wait, and the number of tasks there were then. -/
structure Waiter where
  registered : Nat
  joiner : Joiner
  deriving DecidableEq

/-- A tracker and all who have begun to wait for its tasks, the first one first. -/
structure Crowd (ε : Type) where
  tracker : Tracker ε
  waiters : List Waiter

/-- What can happen. -/
inductive Move (ε : Type) where
  /-- A task is registered from outside. -/
  | add (work : Task ε)
  /-- One more begins to wait. -/
  | join
  | turn (h : Handle)
  /-- One of those who wait looks. -/
  | look (i : Nat)

namespace Crowd

variable {ε : Type}

def empty : Crowd ε := ⟨.empty, []⟩

def step (s : Crowd ε) : Move ε → Crowd ε
  | .add work => { s with tracker := (s.tracker.add work).2 }
  | .join => { s with waiters := s.waiters ++ [⟨s.tracker.tasks.size, .start⟩] }
  | .turn h => { s with tracker := (s.tracker.advance h).2 }
  | .look i =>
    match s.waiters[i]? with
    | none => s
    | some w =>
      let (joiner, tracker) := w.joiner.poll s.tracker
      ⟨tracker, s.waiters.set i { w with joiner }⟩

def run (s : Crowd ε) (moves : List (Move ε)) : Crowd ε := moves.foldl step s

def Holds (s : Crowd ε) (i : Nat) (h : Handle) : Prop :=
  ∃ w, s.waiters[i]? = some w ∧ h ∈ w.joiner.batch

/-- A task that is not over is pending, or somebody holds its handle. -/
def Covered (s : Crowd ε) : Prop :=
  ∀ h < s.tracker.tasks.size, s.tracker.isOver h ∨ h ∈ s.tracker.pending ∨ ∃ i, s.Holds i h

variable {s : Crowd ε} {i k : Nat} {h : Handle} {w : Waiter}

/-! ## Looking -/

theorem step_look (hw : s.waiters[i]? = some w) :
    s.step (.look i) = ⟨(w.joiner.poll s.tracker).2,
      s.waiters.set i ⟨w.registered, (w.joiner.poll s.tracker).1⟩⟩ := by
  simp only [step, hw]

theorem step_look_of_none (hw : s.waiters[i]? = none) : s.step (.look i) = s := by
  simp only [step, hw]

theorem tasks_look (s : Crowd ε) (i : Nat) :
    (s.step (.look i)).tracker.tasks = s.tracker.tasks := by
  cases hw : s.waiters[i]? with
  | none => rw [step_look_of_none hw]
  | some w =>
      rw [step_look hw]
      exact w.joiner.tasks_poll s.tracker

theorem isOver_look (s : Crowd ε) (i : Nat) (h : Handle) :
    (s.step (.look i)).tracker.isOver h = s.tracker.isOver h :=
  Tracker.isOver_congr (s.tasks_look i) h

theorem waiter_look (hw : s.waiters[i]? = some w) :
    (s.step (.look i)).waiters[i]? = some ⟨w.registered, (w.joiner.poll s.tracker).1⟩ := by
  have hi : i < s.waiters.length := (List.getElem?_eq_some_iff.mp hw).1
  rw [step_look hw, List.getElem?_set_self hi]

/-- Who looks does not touch what others hold. -/
theorem holds_look_of_ne (hne : k ≠ i) : (s.step (.look i)).Holds k h ↔ s.Holds k h := by
  cases hw : s.waiters[i]? with
  | none => rw [step_look_of_none hw]
  | some w => rw [step_look hw, Holds, Holds, List.getElem?_set_ne hne.symm]

theorem holds_look (hw : s.waiters[i]? = some w) :
    (s.step (.look i)).Holds i h ↔ h ∈ (w.joiner.poll s.tracker).1.batch := by
  rw [Holds, waiter_look hw]
  simp

/-- Who looks lets a handle go only if its task is over. -/
theorem held_or_over_look (hheld : s.Holds i h) :
    (s.step (.look i)).Holds i h ∨ s.tracker.isOver h := by
  obtain ⟨w, hw, hmem⟩ := hheld
  rw [holds_look hw]
  have hpolls := w.joiner.polls s.tracker
  generalize (w.joiner.poll s.tracker).1 = j', (w.joiner.poll s.tracker).2 = t at hpolls
  generalize w.joiner = j at *
  cases hpolls with
  | idle | waits => exact .inl hmem
  | returns hbatch _ | takes hbatch _ => exact .inr (hbatch h hmem)

/-- A pending handle stays pending, or the one who looks takes it. -/
theorem pending_or_held_look (hpending : h ∈ s.tracker.pending) :
    h ∈ (s.step (.look i)).tracker.pending ∨ (s.step (.look i)).Holds i h := by
  cases hw : s.waiters[i]? with
  | none =>
      rw [step_look_of_none hw]
      exact .inl hpending
  | some w =>
      rw [holds_look hw, step_look hw]
      have hpolls := w.joiner.polls s.tracker
      generalize (w.joiner.poll s.tracker).1 = j', (w.joiner.poll s.tracker).2 = t at *
      generalize w.joiner = j at *
      cases hpolls with
      | idle | waits => exact .inl hpending
      | returns _ hnone =>
          rw [hnone] at hpending
          cases hpending
      | takes _ _ => exact .inr hpending

/-! ## No handle is lost -/

theorem covered_empty : (empty : Crowd ε).Covered := nofun

theorem Holds.join (hheld : s.Holds i h) : (s.step .join).Holds i h := by
  obtain ⟨w, hw, hmem⟩ := hheld
  have hi : i < s.waiters.length := (List.getElem?_eq_some_iff.mp hw).1
  exact ⟨w, by rw [step, List.getElem?_append_left hi, hw], hmem⟩

theorem Covered.step (hcovered : s.Covered) (move : Move ε) : (s.step move).Covered := by
  intro h hh
  cases move with
  | add work =>
      rcases s.tracker.losesNone_add work h hh with hnew | ⟨hlt, hover, hpending⟩
      · exact .inr (.inl hnew)
      · exact (hcovered h hlt).imp hover (Or.imp_left hpending)
  | join =>
      refine (hcovered h hh).imp_right (Or.imp_right ?_)
      rintro ⟨i, hheld⟩
      exact ⟨i, hheld.join⟩
  | turn k =>
      rcases s.tracker.losesNone_advance k h hh with hnew | ⟨hlt, hover, hpending⟩
      · exact .inr (.inl hnew)
      · exact (hcovered h hlt).imp hover (Or.imp_left hpending)
  | look i =>
      rw [tasks_look] at hh
      rw [isOver_look]
      rcases hcovered h hh with hover | hpending | ⟨k, hheld⟩
      · exact .inl hover
      · exact .inr ((pending_or_held_look hpending).imp_right fun hheld => ⟨i, hheld⟩)
      · by_cases hki : k = i
        · subst hki
          rcases held_or_over_look hheld with hheld | hover
          · exact .inr (.inr ⟨k, hheld⟩)
          · exact .inl hover
        · exact .inr (.inr ⟨k, (holds_look_of_ne hki).mpr hheld⟩)

theorem Covered.run (hcovered : s.Covered) (moves : List (Move ε)) : (s.run moves).Covered := by
  induction moves generalizing s with
  | nil => exact hcovered
  | cons move moves ih => exact ih (hcovered.step move)

/-! ## Returning -/

/-- Somebody is waiting, looks and returns. -/
structure Returns (s : Crowd ε) (i : Nat) (w : Waiter) : Prop where
  waiting : s.waiters[i]? = some w
  before : w.joiner ≠ .returned
  after : (s.step (.look i)).waiters[i]? = some ⟨w.registered, .returned⟩

theorem Returns.pending_eq_nil (hreturns : s.Returns i w) :
    (s.step (.look i)).tracker.pending = [] := by
  have hafter := hreturns.after
  rw [waiter_look hreturns.waiting] at hafter
  have hreturned : (w.joiner.poll s.tracker).1 = .returned := by
    rw [Option.some.injEq, Waiter.mk.injEq] at hafter
    exact hafter.2
  have hbefore := hreturns.before
  rw [step_look hreturns.waiting]
  have hpolls := w.joiner.polls s.tracker
  generalize (w.joiner.poll s.tracker).1 = j', (w.joiner.poll s.tracker).2 = t at *
  generalize w.joiner = j at *
  cases hpolls with
  | idle => exact absurd rfl hbefore
  | waits | takes => cases hreturned
  | returns _ hnone => exact hnone

theorem Returns.not_holds (hreturns : s.Returns i w) : ¬ (s.step (.look i)).Holds i h := by
  rintro ⟨w', hw', hmem⟩
  obtain rfl := Option.some.inj (hreturns.after.symm.trans hw')
  cases hmem

/-- When somebody returns, nothing is pending, and the tasks that are not over are those that others
are waiting for. So what was registered before it began to wait is over just if nobody else holds
something of that which is not; and all is over if everybody else has returned before. -/
theorem return_leaves_others (moves : List (Move ε)) (i : Nat) (w : Waiter)
    (hreturns : (empty.run moves).Returns i w) :
    let s := (empty.run moves).step (.look i)
    s.tracker.pending = [] ∧
    (∀ h, s.tracker.isOver h ∨ ∃ k ≠ i, s.Holds k h) ∧
    ((∀ h < w.registered, s.tracker.isOver h) ↔
      ∀ k ≠ i, ∀ h < w.registered, s.Holds k h → s.tracker.isOver h) ∧
    ((∀ v ∈ s.waiters, v.joiner = .returned) → ∀ h, s.tracker.isOver h) := by
  intro s
  have hcovered : s.Covered := (covered_empty.run moves).step (.look i)
  have hpending : s.tracker.pending = [] := hreturns.pending_eq_nil
  have hothers : ∀ h, s.tracker.isOver h ∨ ∃ k ≠ i, s.Holds k h := by
    intro h
    cases hover : s.tracker.isOver h with
    | true => exact .inl rfl
    | false =>
        rcases hcovered h (Tracker.lt_size_of_isOver_eq_false hover) with hover' | hmem | ⟨k, hheld⟩
        · rw [hover] at hover'
          cases hover'
        · rw [hpending] at hmem
          cases hmem
        · refine .inr ⟨k, ?_, hheld⟩
          rintro rfl
          exact hreturns.not_holds hheld
  refine ⟨hpending, hothers, ⟨fun hall k _ h hlt _ => hall h hlt, fun hfree h hlt => ?_⟩,
    fun hreturned h => ?_⟩
  · rcases hothers h with hover | ⟨k, hk, hheld⟩
    · exact hover
    · exact hfree k hk h hlt hheld
  · rcases hothers h with hover | ⟨k, -, v, hv, hmem⟩
    · exact hover
    · rw [hreturned v (List.mem_of_getElem? hv)] at hmem
      cases hmem

/-- One waits for a task, and another begins to wait before the task has had its turn. -/
def overtaking : List (Move String) := [.add (.perform "write" .done), .join, .look 0, .join]

theorem return_leaves_others_overtaking :
    ((empty.run overtaking).step (.look 1)).tracker.pending = [] ∧
      ∀ h, ((empty.run (overtaking ++ [.look 1, .turn 0])).step (.look 0)).tracker.isOver h := by
  have hovertakes : (empty.run overtaking).Returns 1 ⟨1, .start⟩ :=
    ⟨by decide +kernel, by decide, by decide +kernel⟩
  have hlast : (empty.run (overtaking ++ [.look 1, .turn 0])).Returns 0 ⟨1, .waiting [0]⟩ :=
    ⟨by decide +kernel, by decide, by decide +kernel⟩
  refine ⟨(return_leaves_others overtaking 1 _ hovertakes).1, ?_⟩
  exact (return_leaves_others _ 0 _ hlast).2.2.2 (by decide +kernel)

/-- The one who begins later returns at once, although the task was registered before. -/
theorem not_over_overtaking :
    ¬ ∀ (moves : List (Move String)) (i : Nat) (w : Waiter), (empty.run moves).Returns i w →
      ∀ h < w.registered, ((empty.run moves).step (.look i)).tracker.isOver h := by
  intro hbarrier
  have hovertakes : (empty.run overtaking).Returns 1 ⟨1, .start⟩ :=
    ⟨by decide +kernel, by decide, by decide +kernel⟩
  have hover := hbarrier overtaking 1 _ hovertakes 0 Nat.zero_lt_one
  revert hover
  decide +kernel

end Crowd

end LoadScenario.Work
