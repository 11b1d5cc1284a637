import LoadScenario.Work.Join
import Mathlib.Data.List.Perm.Basic

/-!
# What becomes of deferred work

A turn changes little. It takes one step of one task, and all that can happen is said by `Advances`.
From this it follows for any turns in any order that what has been performed and what is still to be
performed is always the same together, that a task that is over stays over, and that nobody but a
task itself changes it.

Whether all work comes to its end is another matter, because a task may wait. It does if tasks wait
for earlier ones only: then a round, which lets the tasks run one after the other, brings each of
those that are there to its end. New tasks may have been registered meanwhile, but each registration
was a step, and the number of steps is bounded from the beginning. So whoever waits returns, and
then nothing is left.
-/

namespace LoadScenario.Work

variable {ε : Type}

/-- What a task and the tasks it registers are still to perform. -/
def Task.effects : Task ε → List ε
  | done | broken => []
  | perform effect rest => effect :: rest.effects
  | await _ rest => rest.effects
  | register child rest => rest.effects ++ child.effects

/-- A task waits for tasks before the first number only, and the tasks that it registers for tasks
before the second. -/
def Task.AwaitsBelow : Nat → Nat → Task ε → Prop
  | _, _, done | _, _, broken => True
  | own, seen, perform _ rest => rest.AwaitsBelow own seen
  | own, seen, await other rest => other < own ∧ rest.AwaitsBelow own seen
  | own, seen, register child rest => child.AwaitsBelow seen seen ∧ rest.AwaitsBelow own seen

theorem Task.AwaitsBelow.mono {task : Task ε} {own own' seen seen' : Nat}
    (h : task.AwaitsBelow own seen) (hown : own ≤ own') (hseen : seen ≤ seen') :
    task.AwaitsBelow own' seen' := by
  induction task generalizing own own' with
  | done | broken => trivial
  | perform effect rest ih => exact ih h hown
  | await other rest ih => exact ⟨Nat.lt_of_lt_of_le h.1 hown, ih h.2 hown⟩
  | register child rest ihchild ihrest => exact ⟨ihchild h.1 hseen, ihrest h.2 hown⟩

namespace Tracker

/-- What is still to be performed. -/
def effects (t : Tracker ε) : List ε := t.tasks.toList.flatMap Task.effects

/-- Tasks wait for earlier ones only. -/
def Sound (t : Tracker ε) : Prop :=
  ∀ (h : Handle) (task : Task ε), t.tasks[h]? = some task → task.AwaitsBelow h t.tasks.size

/-! ## A turn -/

/-- What can happen when a task has its turn. -/
inductive Advances (t : Tracker ε) (h : Handle) : Option ε → Tracker ε → Prop where
  | ended (hover : t.isOver h) : Advances t h none t
  | waits {other : Handle} {rest : Task ε} (htask : t.tasks[h]? = some (.await other rest))
    (hother : t.isOver other = false) : Advances t h none t
  | performs {effect : ε} {rest : Task ε} (htask : t.tasks[h]? = some (.perform effect rest)) :
    Advances t h (some effect) (t.update h rest)
  | goesOn {other : Handle} {rest : Task ε} (htask : t.tasks[h]? = some (.await other rest))
    (hother : t.isOver other) : Advances t h none (t.update h rest)
  | registers {child rest : Task ε} (htask : t.tasks[h]? = some (.register child rest)) :
    Advances t h none ((t.update h rest).add child).2

theorem advances (t : Tracker ε) (h : Handle) : Advances t h (t.advance h).1 (t.advance h).2 := by
  rw [advance]
  split
  · next htask => exact .performs htask
  · next other rest htask =>
      cases hother : t.isOver other with
      | true => exact .goesOn htask hother
      | false => exact .waits htask hother
  · next htask => exact .registers htask
  · next hperform hawait hregister =>
      refine .ended ?_
      rw [isOver]
      cases htask : t.tasks[h]? with
      | none => rfl
      | some task =>
          cases task with
          | done | broken => rfl
          | perform effect rest => exact absurd htask (hperform effect rest)
          | await other rest => exact absurd htask (hawait other rest)
          | register child rest => exact absurd htask (hregister child rest)

theorem lt_size_of_getElem? {t : Tracker ε} {h : Handle} {task : Task ε}
    (htask : t.tasks[h]? = some task) : h < t.tasks.size := by
  obtain ⟨hlt, -⟩ := Array.getElem?_eq_some_iff.mp htask
  exact hlt

theorem getElem?_update_self {t : Tracker ε} {h : Handle} (hlt : h < t.tasks.size)
    (task : Task ε) : (t.update h task).tasks[h]? = some task := by
  rw [update, Array.getElem?_setIfInBounds_self_of_lt hlt]

theorem getElem?_update_of_ne {t : Tracker ε} {h k : Handle} (hk : k ≠ h) (task : Task ε) :
    (t.update h task).tasks[k]? = t.tasks[k]? := by
  rw [update, Array.getElem?_setIfInBounds_ne (Ne.symm hk)]

theorem size_update (t : Tracker ε) (h : Handle) (task : Task ε) :
    (t.update h task).tasks.size = t.tasks.size := by
  rw [update, Array.size_setIfInBounds]

theorem size_add (t : Tracker ε) (task : Task ε) :
    (t.add task).2.tasks.size = t.tasks.size + 1 := by
  rw [add, Array.size_push]

theorem getElem?_add_of_lt {t : Tracker ε} {k : Handle} (hk : k < t.tasks.size) (task : Task ε) :
    (t.add task).2.tasks[k]? = t.tasks[k]? := by
  rw [add, Array.getElem?_push_lt hk, Array.getElem?_eq_getElem hk]

theorem getElem?_add_self (t : Tracker ε) (task : Task ε) :
    (t.add task).2.tasks[t.tasks.size]? = some task := by
  rw [add, Array.getElem?_push_size]

/-! ## What turns leave as it is -/

theorem size_le_advance (t : Tracker ε) (h : Handle) :
    t.tasks.size ≤ (t.advance h).2.tasks.size := by
  have hadvances := t.advances h
  generalize (t.advance h).1 = effect, (t.advance h).2 = t' at hadvances
  cases hadvances with
  | ended | waits => exact Nat.le_refl _
  | performs | goesOn => exact Nat.le_of_eq (size_update t h _).symm
  | registers =>
      rw [size_add, size_update]
      exact Nat.le_succ _

theorem size_le_play (t : Tracker ε) (turns : List Handle) :
    t.tasks.size ≤ (t.play turns).2.tasks.size := by
  induction turns generalizing t with
  | nil => exact Nat.le_refl _
  | cons h turns ih => exact Nat.le_trans (size_le_advance t h) (ih _)

/-- Only its own turns change a task. -/
theorem getElem?_advance_of_ne {t : Tracker ε} {h k : Handle} (hk : k < t.tasks.size)
    (hne : k ≠ h) : (t.advance h).2.tasks[k]? = t.tasks[k]? := by
  have hadvances := t.advances h
  generalize (t.advance h).1 = effect, (t.advance h).2 = t' at hadvances
  cases hadvances with
  | ended | waits => rfl
  | performs | goesOn => rw [getElem?_update_of_ne hne]
  | registers => rw [getElem?_add_of_lt (by rwa [size_update]), getElem?_update_of_ne hne]

theorem getElem?_play_of_not_mem {t : Tracker ε} {turns : List Handle} {k : Handle}
    (hk : k < t.tasks.size) (hturns : k ∉ turns) : (t.play turns).2.tasks[k]? = t.tasks[k]? := by
  induction turns generalizing t with
  | nil => rfl
  | cons h turns ih =>
      rw [List.mem_cons, not_or] at hturns
      have hlt := Nat.lt_of_lt_of_le hk (size_le_advance t h)
      exact (ih hlt hturns.2).trans (getElem?_advance_of_ne hk hturns.1)

theorem isOver_advance {t : Tracker ε} {k : Handle} (hk : k < t.tasks.size) (hover : t.isOver k)
    (h : Handle) : (t.advance h).2.isOver k := by
  by_cases hne : k = h
  · subst hne
    have hadvances := t.advances k
    generalize (t.advance k).1 = effect, (t.advance k).2 = t' at hadvances
    cases hadvances with
    | ended | waits => exact hover
    | performs htask | goesOn htask _ | registers htask =>
        rw [isOver, htask] at hover
        cases hover
  · rw [isOver, getElem?_advance_of_ne hk hne]
    exact hover

theorem isOver_play {t : Tracker ε} {k : Handle} (hk : k < t.tasks.size) (hover : t.isOver k)
    (turns : List Handle) : (t.play turns).2.isOver k := by
  induction turns generalizing t with
  | nil => exact hover
  | cons h turns ih =>
      exact ih (Nat.lt_of_lt_of_le hk (size_le_advance t h)) (isOver_advance hk hover h)

theorem play_append (t : Tracker ε) (turns turns' : List Handle) :
    t.play (turns ++ turns') =
      ((t.play turns).1 ++ ((t.play turns).2.play turns').1,
        ((t.play turns).2.play turns').2) := by
  induction turns generalizing t with
  | nil => rfl
  | cons h turns ih =>
      simp only [List.cons_append, play, ih, List.append_assoc]

/-! ## What is performed -/

theorem perm_flatMap_set {α β : Type} {f : α → List β} {l : List α} {i : Nat} {a : α}
    (h : l[i]? = some a) (b : α) : (f a ++ (l.set i b).flatMap f).Perm (f b ++ l.flatMap f) := by
  induction l generalizing i with
  | nil => cases h
  | cons c l ih =>
      cases i with
      | zero =>
          obtain rfl := Option.some.inj h
          rw [List.set_cons_zero, List.flatMap_cons, List.flatMap_cons]
          exact List.perm_append_comm_assoc _ _ _
      | succ i =>
          rw [List.set_cons_succ, List.flatMap_cons, List.flatMap_cons]
          have hmoved := (ih h).append_left (f c)
          exact ((List.perm_append_comm_assoc _ _ _).trans hmoved).trans
            (List.perm_append_comm_assoc _ _ _)

theorem effects_update {t : Tracker ε} {h : Handle} {task : Task ε}
    (htask : t.tasks[h]? = some task) (task' : Task ε) :
    (task.effects ++ (t.update h task').effects).Perm (task'.effects ++ t.effects) := by
  rw [effects, effects, update, Array.toList_setIfInBounds]
  exact perm_flatMap_set (by rwa [Array.getElem?_toList]) task'

theorem effects_add (t : Tracker ε) (task : Task ε) :
    (t.add task).2.effects = t.effects ++ task.effects := by
  rw [effects, effects, add, Array.toList_push, List.flatMap_append, List.flatMap_singleton]

theorem mem_effects {t : Tracker ε} {h : Handle} {task : Task ε} (htask : t.tasks[h]? = some task)
    {effect : ε} (heffect : effect ∈ task.effects) : effect ∈ t.effects :=
  List.mem_flatMap.mpr
    ⟨task, Array.mem_toList_iff.mpr (Array.mem_of_getElem? htask), heffect⟩

/-- Nothing is left to be performed when all tasks are over. -/
theorem effects_eq_nil {t : Tracker ε} (hover : ∀ h, t.isOver h) : t.effects = [] := by
  refine List.flatMap_eq_nil_iff.mpr fun task hmem => ?_
  obtain ⟨h, htask⟩ := Array.mem_iff_getElem?.mp (Array.mem_toList_iff.mp hmem)
  have htaskOver := hover h
  rw [isOver, htask] at htaskOver
  cases task with
  | done | broken => rfl
  | perform | await | register => cases htaskOver

theorem perm_advance (t : Tracker ε) (h : Handle) :
    ((t.advance h).1.toList ++ (t.advance h).2.effects).Perm t.effects := by
  have hadvances := t.advances h
  generalize (t.advance h).1 = effect, (t.advance h).2 = t' at hadvances
  cases hadvances with
  | ended | waits => exact .refl _
  | @performs effect rest htask =>
      have hupdate := effects_update htask rest
      rw [Task.effects, List.cons_append] at hupdate
      exact (List.perm_append_left_iff rest.effects).mp (List.perm_middle.trans hupdate)
  | @goesOn other rest htask _ =>
      exact (List.perm_append_left_iff rest.effects).mp (effects_update htask rest)
  | @registers child rest htask =>
      have hupdate := effects_update htask rest
      rw [Task.effects, List.append_assoc] at hupdate
      show ((t.update h rest).add child).2.effects.Perm t.effects
      rw [effects_add]
      exact List.perm_append_comm.trans ((List.perm_append_left_iff rest.effects).mp hupdate)

/-- What has been performed and what is still to be performed are together what was to be performed
at the beginning. -/
theorem perm_play (t : Tracker ε) (turns : List Handle) :
    ((t.play turns).1 ++ (t.play turns).2.effects).Perm t.effects := by
  induction turns generalizing t with
  | nil => exact .refl _
  | cons h turns ih =>
      rw [play, List.append_assoc]
      exact ((ih (t.advance h).2).append_left _).trans (perm_advance t h)

/-! ## How many steps there are -/

theorem foldr_weight_set {l : List (Task ε)} {i : Nat} {a : Task ε} (h : l[i]? = some a)
    (b : Task ε) (n : Nat) :
    a.weight + (l.set i b).foldr (fun task n => task.weight + n) n =
      b.weight + l.foldr (fun task n => task.weight + n) n := by
  induction l generalizing i with
  | nil => cases h
  | cons c l ih =>
      cases i with
      | zero =>
          obtain rfl := Option.some.inj h
          rw [List.set_cons_zero, List.foldr_cons, List.foldr_cons]
          omega
      | succ i =>
          have hrest := ih h
          rw [List.set_cons_succ, List.foldr_cons, List.foldr_cons]
          omega

theorem foldr_weight_append (l : List (Task ε)) (n : Nat) :
    l.foldr (fun task n => task.weight + n) n =
      l.foldr (fun task n => task.weight + n) 0 + n := by
  induction l with
  | nil => exact (Nat.zero_add n).symm
  | cons task l ih =>
      rw [List.foldr_cons, List.foldr_cons, ih]
      omega

theorem weight_update {t : Tracker ε} {h : Handle} {task : Task ε}
    (htask : t.tasks[h]? = some task) (task' : Task ε) :
    task.weight + (t.update h task').weight = task'.weight + t.weight := by
  rw [weight, weight, update, Array.toList_setIfInBounds]
  exact foldr_weight_set (by rwa [Array.getElem?_toList]) task' 0

theorem weight_add (t : Tracker ε) (task : Task ε) :
    (t.add task).2.weight = t.weight + task.weight := by
  rw [weight, weight, add, Array.toList_push, List.foldr_append, foldr_weight_append]
  rfl

/-- A turn takes a step, unless the task is over or waits for one that is not. Each new task is a
step. -/
theorem advance_cases (t : Tracker ε) (h : Handle) :
    (t.advance h).2 = t ∧ (t.isOver h ∨ ∃ other rest, t.tasks[h]? = some (.await other rest) ∧
      t.isOver other = false) ∨
    t.isOver h = false ∧ (t.advance h).2.weight < t.weight ∧
      (t.advance h).2.tasks.size ≤ t.tasks.size + 1 := by
  have hadvances := t.advances h
  generalize (t.advance h).1 = effect, (t.advance h).2 = t' at hadvances
  cases hadvances with
  | ended hover => exact .inl ⟨rfl, .inl hover⟩
  | waits htask hother => exact .inl ⟨rfl, .inr ⟨_, _, htask, hother⟩⟩
  | @performs effect rest htask | @goesOn _ rest htask =>
      have hupdate := weight_update htask rest
      rw [Task.weight] at hupdate
      refine .inr ⟨by rw [isOver, htask]; rfl, by omega, ?_⟩
      rw [size_update]
      exact Nat.le_succ _
  | @registers child rest htask =>
      have hupdate := weight_update htask rest
      rw [Task.weight] at hupdate
      refine .inr ⟨by rw [isOver, htask]; rfl, ?_, ?_⟩
      · rw [weight_add]
        omega
      · exact Nat.le_of_eq (by rw [size_add, size_update])

theorem weight_advance (t : Tracker ε) (h : Handle) :
    (t.advance h).2.weight + (t.advance h).2.tasks.size ≤ t.weight + t.tasks.size := by
  obtain ⟨hsame, -⟩ | ⟨-, hless, hsize⟩ := t.advance_cases h
  · exact Nat.le_of_eq (by rw [hsame])
  · omega

theorem weight_play (t : Tracker ε) (turns : List Handle) :
    (t.play turns).2.weight + (t.play turns).2.tasks.size ≤ t.weight + t.tasks.size := by
  induction turns generalizing t with
  | nil => exact Nat.le_refl _
  | cons h turns ih => exact Nat.le_trans (ih _) (weight_advance t h)

/-! ## Rounds -/

theorem Sound.add {t : Tracker ε} (hsound : t.Sound) {task : Task ε}
    (htask : task.AwaitsBelow t.tasks.size (t.tasks.size + 1)) : (t.add task).2.Sound := by
  intro k task' hk
  rw [size_add]
  rcases Nat.lt_trichotomy k t.tasks.size with hlt | rfl | hgt
  · rw [getElem?_add_of_lt hlt] at hk
    exact (hsound k task' hk).mono (Nat.le_refl _) (Nat.le_succ _)
  · rw [getElem?_add_self] at hk
    obtain rfl := Option.some.inj hk
    exact htask
  · have hlt := lt_size_of_getElem? hk
    rw [size_add] at hlt
    exact absurd hlt (Nat.not_lt.mpr hgt)

theorem Sound.update {t : Tracker ε} (hsound : t.Sound) {h : Handle} {rest : Task ε}
    (hlt : h < t.tasks.size) (hrest : rest.AwaitsBelow h t.tasks.size) :
    (t.update h rest).Sound := by
  intro k task hk
  rw [size_update]
  by_cases hne : k = h
  · subst hne
    rw [getElem?_update_self hlt] at hk
    obtain rfl := Option.some.inj hk
    exact hrest
  · rw [getElem?_update_of_ne hne] at hk
    exact hsound k task hk

theorem Sound.advance {t : Tracker ε} (hsound : t.Sound) (h : Handle) : (t.advance h).2.Sound := by
  have hadvances := t.advances h
  generalize (t.advance h).1 = effect, (t.advance h).2 = t' at hadvances
  cases hadvances with
  | ended | waits => exact hsound
  | @performs _ rest htask =>
      have hrest : rest.AwaitsBelow h t.tasks.size := hsound h (.perform _ rest) htask
      exact hsound.update (lt_size_of_getElem? htask) hrest
  | @goesOn _ rest htask _ =>
      exact hsound.update (lt_size_of_getElem? htask) (hsound h _ htask).2
  | @registers child rest htask =>
      obtain ⟨hchild, hrest⟩ := hsound h _ htask
      refine (hsound.update (lt_size_of_getElem? htask) hrest).add ?_
      rw [size_update]
      exact hchild.mono (Nat.le_refl _) (Nat.le_succ _)

theorem Sound.play {t : Tracker ε} (hsound : t.Sound) (turns : List Handle) :
    (t.play turns).2.Sound := by
  induction turns generalizing t with
  | nil => exact hsound
  | cons h turns ih => exact ih (hsound.advance h)

/-- A task whose earlier tasks are over needs no more turns than it has steps. -/
theorem isOver_play_replicate {t : Tracker ε} {h : Handle} {task : Task ε} {n : Nat}
    (hsound : t.Sound) (hearlier : ∀ k < h, t.isOver k) (htask : t.tasks[h]? = some task)
    (hn : task.weight ≤ n) : (t.play (List.replicate n h)).2.isOver h := by
  have hlt := lt_size_of_getElem? htask
  induction n generalizing t task with
  | zero =>
      show t.isOver h
      rw [isOver, htask]
      cases task with
      | done | broken => rfl
      | perform | await | register =>
          rw [Task.weight] at hn
          omega
  | succ n ih =>
      have hnext : ∀ task' : Task ε, (t.advance h).2.tasks[h]? = some task' →
          task'.weight ≤ n → ((t.advance h).2.play (List.replicate n h)).2.isOver h := by
        intro task' htask' hn'
        refine ih (hsound.advance h) (fun k hk => ?_) htask' hn' (lt_size_of_getElem? htask')
        exact isOver_advance (Nat.lt_trans hk hlt) (hearlier k hk) h
      show ((t.advance h).2.play (List.replicate n h)).2.isOver h
      have hadvances := t.advances h
      generalize (t.advance h).1 = effect, (t.advance h).2 = t' at hadvances hnext ⊢
      cases hadvances with
      | ended hover => exact isOver_play hlt hover _
      | waits hawait hother =>
          -- Whatever the task waits for is an earlier task, and so it is over.
          have hbelow := (hsound h _ hawait).1
          rw [hearlier _ hbelow] at hother
          cases hother
      | @performs _ rest hperform =>
          obtain rfl := Option.some.inj (htask.symm.trans hperform)
          exact hnext rest (getElem?_update_self hlt rest) (Nat.le_of_succ_le_succ hn)
      | @goesOn _ rest hawait _ =>
          obtain rfl := Option.some.inj (htask.symm.trans hawait)
          exact hnext rest (getElem?_update_self hlt rest) (Nat.le_of_succ_le_succ hn)
      | @registers child rest hregister =>
          obtain rfl := Option.some.inj (htask.symm.trans hregister)
          rw [Task.weight] at hn
          refine hnext rest ?_ (by omega)
          rw [getElem?_add_of_lt (by rwa [size_update]), getElem?_update_self hlt]

/-- The turns in a round of the tasks before a handle. -/
def turnsBefore (t : Tracker ε) (n : Handle) : List Handle :=
  (List.range n).flatMap fun h => List.replicate (((t.tasks[h]?).map Task.weight).getD 0) h

theorem turnsBefore_succ {t : Tracker ε} {n : Handle} {task : Task ε}
    (htask : t.tasks[n]? = some task) :
    t.turnsBefore (n + 1) = t.turnsBefore n ++ List.replicate task.weight n := by
  rw [turnsBefore, List.range_succ, List.flatMap_append, List.flatMap_singleton, htask]
  rfl

theorem not_mem_turnsBefore (t : Tracker ε) (n : Handle) : n ∉ t.turnsBefore n := by
  simp [turnsBefore]

theorem isOver_play_turnsBefore {t : Tracker ε} (hsound : t.Sound) {n : Handle}
    (hn : n ≤ t.tasks.size) : ∀ k < n, (t.play (t.turnsBefore n)).2.isOver k := by
  induction n with
  | zero => exact fun k hk => absurd hk (Nat.not_lt_zero k)
  | succ n ih =>
      have htask : t.tasks[n]? = some t.tasks[n] := Array.getElem?_eq_getElem hn
      have hbefore := ih (Nat.le_of_lt hn)
      rw [turnsBefore_succ htask, play_append]
      intro k hk
      rcases Nat.lt_succ_iff_lt_or_eq.mp hk with hkn | rfl
      · have hsize := size_le_play t (t.turnsBefore n)
        exact isOver_play (Nat.lt_of_lt_of_le (Nat.lt_trans hkn hn) hsize) (hbefore k hkn) _
      · have hkept := getElem?_play_of_not_mem hn (t.not_mem_turnsBefore k)
        exact isOver_play_replicate (hsound.play _) hbefore (hkept.trans htask) (Nat.le_refl _)

/-- A round brings every task to its end that is there at its beginning. -/
theorem isOver_play_round {t : Tracker ε} (hsound : t.Sound) {k : Handle}
    (hk : k < t.tasks.size) : (t.play t.round).2.isOver k :=
  isOver_play_turnsBefore hsound (Nat.le_refl _) k hk

/-! ## Waiting -/

/-- Handles that nobody has waited for, as far as their tasks are not over. -/
structure Awaited (t : Tracker ε) : Prop where
  lt_size : ∀ h ∈ t.pending, h < t.tasks.size
  isOver_or_mem : ∀ h < t.tasks.size, t.isOver h ∨ h ∈ t.pending

theorem Awaited.add {t : Tracker ε} (hawaited : t.Awaited) (task : Task ε) :
    (t.add task).2.Awaited := by
  refine ⟨fun k hk => ?_, fun k hk => ?_⟩
  · rw [size_add]
    rcases List.mem_append.mp hk with hmem | hnew
    · exact Nat.lt_succ_of_lt (hawaited.lt_size k hmem)
    · rw [List.mem_singleton.mp hnew]
      exact Nat.lt_succ_self _
  · rw [size_add] at hk
    rcases Nat.lt_succ_iff_lt_or_eq.mp hk with hlt | rfl
    · rw [isOver, getElem?_add_of_lt hlt]
      rcases hawaited.isOver_or_mem k hlt with hover | hmem
      · exact .inl hover
      · exact .inr (List.mem_append_left _ hmem)
    · exact .inr (List.mem_append_right _ (List.mem_singleton_self _))

/-- Whom somebody waits for makes no difference to the tasks. -/
theorem advance_congr {t t' : Tracker ε} (htasks : t.tasks = t'.tasks) (h : Handle) :
    (t.advance h).1 = (t'.advance h).1 ∧ (t.advance h).2.tasks = (t'.advance h).2.tasks := by
  obtain ⟨tasks, pending⟩ := t
  obtain ⟨_, pending'⟩ := t'
  obtain rfl := htasks
  simp only [advance]
  split
  · exact ⟨rfl, rfl⟩
  · next other rest _ =>
      have hsame : isOver ⟨tasks, pending'⟩ other = isOver ⟨tasks, pending⟩ other := rfl
      refine ⟨rfl, ?_⟩
      rw [hsame]
      cases isOver ⟨tasks, pending⟩ other <;> rfl
  · exact ⟨rfl, rfl⟩
  · exact ⟨rfl, rfl⟩

theorem play_congr {t t' : Tracker ε} (htasks : t.tasks = t'.tasks) (turns : List Handle) :
    (t.play turns).1 = (t'.play turns).1 ∧ (t.play turns).2.tasks = (t'.play turns).2.tasks := by
  induction turns generalizing t t' with
  | nil => exact ⟨rfl, htasks⟩
  | cons h turns ih =>
      obtain ⟨heffect, hadvanced⟩ := advance_congr htasks h
      obtain ⟨heffects, hplayed⟩ := ih hadvanced
      refine ⟨?_, hplayed⟩
      show (t.advance h).1.toList ++ ((t.advance h).2.play turns).1 =
        (t'.advance h).1.toList ++ ((t'.advance h).2.play turns).1
      rw [heffect, heffects]

theorem mem_pending_advance {t : Tracker ε} {h k : Handle} : k ∈ (t.advance h).2.pending ↔
    k ∈ t.pending ∨ t.tasks.size ≤ k ∧ k < (t.advance h).2.tasks.size := by
  have hnone : k ∈ t.pending ↔ k ∈ t.pending ∨ t.tasks.size ≤ k ∧ k < t.tasks.size :=
    (or_iff_left fun h => absurd h.2 (Nat.not_lt.mpr h.1)).symm
  have hadvances := t.advances h
  generalize (t.advance h).1 = effect, (t.advance h).2 = t' at hadvances
  cases hadvances with
  | ended | waits => exact hnone
  | performs | goesOn =>
      rw [size_update]
      exact hnone
  | @registers child rest =>
      show k ∈ t.pending ++ [(t.update h rest).tasks.size] ↔ _
      rw [size_add, size_update, List.mem_append, List.mem_singleton]
      refine or_congr_right ⟨fun heq => ?_, fun hbounds => ?_⟩
      · exact ⟨Nat.le_of_eq heq.symm, Nat.lt_succ_of_le (Nat.le_of_eq heq)⟩
      · exact Nat.le_antisymm (Nat.le_of_lt_succ hbounds.2) hbounds.1

/-- What has been registered during some turns is pending behind them. -/
theorem mem_pending_play {t : Tracker ε} {turns : List Handle} {k : Handle} :
    k ∈ (t.play turns).2.pending ↔
      k ∈ t.pending ∨ t.tasks.size ≤ k ∧ k < (t.play turns).2.tasks.size := by
  induction turns generalizing t with
  | nil => exact (or_iff_left fun h => absurd h.2 (Nat.not_lt.mpr h.1)).symm
  | cons h turns ih =>
      have hfirst := size_le_advance t h
      have hothers := size_le_play (t.advance h).2 turns
      show k ∈ ((t.advance h).2.play turns).2.pending ↔
        _ ∨ _ ∧ k < ((t.advance h).2.play turns).2.tasks.size
      rw [ih, mem_pending_advance, or_assoc]
      refine or_congr_right ⟨fun hbounds => ?_, fun hbounds => ?_⟩
      · rcases hbounds with ⟨hle, hlt⟩ | ⟨hle, hlt⟩
        · exact ⟨hle, Nat.lt_of_lt_of_le hlt hothers⟩
        · exact ⟨Nat.le_trans hfirst hle, hlt⟩
      · rcases Nat.lt_or_ge k (t.advance h).2.tasks.size with hlt | hge
        · exact .inl ⟨hbounds.1, hlt⟩
        · exact .inr ⟨hge, hbounds.2⟩

theorem Awaited.play {t : Tracker ε} (hawaited : t.Awaited) (turns : List Handle) :
    (t.play turns).2.Awaited where
  lt_size k hk := by
    rcases mem_pending_play.mp hk with hmem | ⟨-, hlt⟩
    · exact Nat.lt_of_lt_of_le (hawaited.lt_size k hmem) (size_le_play t turns)
    · exact hlt
  isOver_or_mem k hk := by
    by_cases hlt : k < t.tasks.size
    · rcases hawaited.isOver_or_mem k hlt with hover | hmem
      · exact .inl (isOver_play hlt hover turns)
      · exact .inr (mem_pending_play.mpr (.inl hmem))
    · exact .inr (mem_pending_play.mpr (.inr ⟨Nat.le_of_not_lt hlt, hk⟩))

/-- The tracker once somebody has taken its handles to wait for them. -/
def taken (t : Tracker ε) : Tracker ε := ⟨t.tasks, []⟩

theorem mem_pending_play_taken {t : Tracker ε} {turns : List Handle} {k : Handle} :
    k ∈ (t.taken.play turns).2.pending ↔
      t.tasks.size ≤ k ∧ k < (t.taken.play turns).2.tasks.size := by
  rw [mem_pending_play]
  exact or_iff_right List.not_mem_nil

/-- Whatever a round leaves behind has been registered in it. -/
theorem awaited_play_taken {t : Tracker ε} (hsound : t.Sound) :
    (t.taken.play t.round).2.Awaited := by
  refine ⟨fun k hk => (mem_pending_play_taken.mp hk).2, fun k hk => ?_⟩
  rcases Nat.lt_or_ge k t.tasks.size with hlt | hge
  · have hsoundTaken : t.taken.Sound := hsound
    exact .inl (isOver_play_round hsoundTaken hlt)
  · exact .inr (mem_pending_play_taken.mpr ⟨hge, hk⟩)

/-- A round uses up at least one step if it leaves anything behind. -/
theorem weight_play_taken {t : Tracker ε} (turns : List Handle) :
    (t.taken.play turns).2.pending = [] ∨ (t.taken.play turns).2.weight < t.weight := by
  have hweight : _ + _ ≤ t.weight + t.tasks.size := weight_play t.taken turns
  cases hpending : (t.taken.play turns).2.pending with
  | nil => exact .inl rfl
  | cons k _ =>
      have hk := mem_pending_play_taken.mp (hpending ▸ List.mem_cons_self)
      have hgrown := Nat.lt_of_le_of_lt hk.1 hk.2
      exact .inr (by omega)

/-- What waiting does is what some turns do, and behind it nothing is left. -/
structure Finishes (t : Tracker ε) (result : List ε × Tracker ε) : Prop where
  turns : ∃ turns, result.1 = (t.play turns).1 ∧ result.2.tasks = (t.play turns).2.tasks
  pending : result.2.pending = []
  isOver : ∀ h, result.2.isOver h

theorem Awaited.isOver {t : Tracker ε} (hawaited : t.Awaited) (hpending : t.pending = [])
    (h : Handle) : t.isOver h := by
  by_cases hlt : h < t.tasks.size
  · rcases hawaited.isOver_or_mem h hlt with hover | hmem
    · exact hover
    · rw [hpending] at hmem
      cases hmem
  · rw [Tracker.isOver, Array.getElem?_eq_none (Nat.le_of_not_lt hlt)]
    rfl

/-- A round in front of a wait is a part of the wait. -/
theorem Finishes.round {t : Tracker ε} {turns : List Handle} {result : List ε × Tracker ε}
    (h : Finishes (t.taken.play turns).2 result) :
    t.Finishes ((t.taken.play turns).1 ++ result.1, result.2) := by
  obtain ⟨⟨later, heffects, htasks⟩, hpending, hover⟩ := h
  obtain ⟨hround, hroundTasks⟩ := play_congr (show t.taken.tasks = t.tasks from rfl) turns
  obtain ⟨hlater, hlaterTasks⟩ := play_congr hroundTasks later
  refine ⟨⟨turns ++ later, ?_, ?_⟩, hpending, hover⟩
  · rw [play_append, ← hround, ← hlater]
    exact congrArg ((t.taken.play turns).1 ++ ·) heffects
  · rw [play_append, ← hlaterTasks]
    exact htasks

theorem finishes_joinWithin {t : Tracker ε} {batch : List Handle} {bound : Nat}
    (hsound : t.Sound) (hawaited : t.Awaited) (hbatch : ∀ h ∈ batch, t.isOver h)
    (hbound : t.pending = [] ∧ 1 ≤ bound ∨ t.weight + 2 ≤ bound) :
    t.Finishes (joinWithin bound (.waiting batch) t) := by
  induction bound generalizing t batch with
  | zero => omega
  | succ bound ih =>
      have hall : batch.all t.isOver := List.all_eq_true.mpr hbatch
      rw [joinWithin, Joiner.poll, if_pos hall]
      cases hpending : t.pending with
      | nil => exact ⟨⟨[], rfl, rfl⟩, hpending, hawaited.isOver hpending⟩
      | cons first others =>
          have hsteps : t.weight + 2 ≤ bound + 1 := by
            rcases hbound with ⟨hnil, -⟩ | hbound
            · rw [hpending] at hnil
              cases hnil
            · exact hbound
          have hsoundTaken : t.taken.Sound := hsound
          have hround : ∀ h ∈ first :: others, (t.taken.play t.round).2.isOver h := by
            intro h hh
            rw [← hpending] at hh
            exact isOver_play_round hsoundTaken (hawaited.lt_size h hh)
          have hleft : (t.taken.play t.round).2.pending = [] ∧ 1 ≤ bound ∨
              (t.taken.play t.round).2.weight + 2 ≤ bound := by
            rcases weight_play_taken t.round with hnone | hless
            · exact .inl ⟨hnone, by omega⟩
            · exact .inr (by omega)
          exact (ih (hsoundTaken.play t.round) (awaited_play_taken hsound) hround hleft).round

theorem finishes_join {t : Tracker ε} (hsound : t.Sound) (hawaited : t.Awaited) :
    t.Finishes t.join :=
  finishes_joinWithin hsound hawaited (fun _ h => absurd h List.not_mem_nil) (.inr (Nat.le_refl _))

/-- Joining performs what is left. -/
theorem perm_join {t : Tracker ε} (hsound : t.Sound) (hawaited : t.Awaited) :
    t.join.1.Perm t.effects := by
  obtain ⟨⟨turns, heffects, htasks⟩, -, hover⟩ := finishes_join hsound hawaited
  have hplay := t.perm_play turns
  have hleft : (t.play turns).2.effects = [] := by
    rw [effects, ← htasks]
    exact effects_eq_nil hover
  rwa [← heffects, hleft, List.append_nil] at hplay

end Tracker

end LoadScenario.Work
