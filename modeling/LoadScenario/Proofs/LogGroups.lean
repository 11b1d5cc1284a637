import LoadScenario.SharedLog
import Mathlib.Data.List.Induction
import Mathlib.Logic.Relation

/-!
# Groups that share a log

A log has no name of its own. It can be reached through its holders only, and who shares a log with
whom is a matter of who was copied from whom, by way of any number of copies made at any time. So
holders that are connected by copying are a group here, and nothing in what groups are speaks of
handles or logs. What is to be shown is that the messages of a group are those that were added
through its members, each once and in the order of addition, part of them handed out already and
the rest still there.

Handles are what connects the two: holders have the same handle if and only if they are connected
(`LogSession.Shared`), and each log keeps account of its own messages (`LogSession.Balanced`). Both
are kept by every step.
-/

namespace LoadScenario

/-- Something that is done with logs. Holders are numbered in the order in which they come. -/
inductive LogStep where
  | new
  | clone (holder : Nat)
  | add (holder : Nat) (message : String)
  | drain (holder : Nat)

namespace LogStep

/-- The holder through whom the step is done. -/
def holder? : LogStep → Option Nat
  | new => none
  | clone i | add i _ | drain i => some i

def addition? : LogStep → Option (Nat × String)
  | add i message => some (i, message)
  | _ => none

/-- Whether the step brings a holder. -/
def isBirth : LogStep → Bool
  | new | clone _ => true
  | _ => false

end LogStep

def holderCount (steps : List LogStep) : Nat := steps.countP LogStep.isBirth

/-- Steps are done through holders that are there, if there are so many at the beginning. -/
def HeldFrom : Nat → List LogStep → Prop
  | _, [] => True
  | n, step :: steps =>
    (∀ i ∈ step.holder?, i < n) ∧ HeldFrom (n + if step.isBirth then 1 else 0) steps

instance decidableHeldFrom : (n : Nat) → (steps : List LogStep) → Decidable (HeldFrom n steps)
  | _, [] => inferInstanceAs (Decidable True)
  | n, step :: steps =>
    have := decidableHeldFrom (n + if step.isBirth then 1 else 0) steps
    inferInstanceAs (Decidable ((∀ i ∈ step.holder?, i < n) ∧ HeldFrom _ steps))

/-- The second holder has come as a copy of the first. -/
def Copied (steps : List LogStep) (i j : Nat) : Prop :=
  ∃ before, before ++ [.clone i] <+: steps ∧ j = holderCount before

/-- Holders are connected by copying. -/
def Connected (steps : List LogStep) : Nat → Nat → Prop := Relation.EqvGen (Copied steps)

/-- The messages that are added, each with the holder. -/
def additions (steps : List LogStep) : List (Nat × String) := steps.filterMap LogStep.addition?

open Classical in
/-- The messages that are added through some of the holders. -/
noncomputable def addedThrough (group : Nat → Prop) (steps : List LogStep) : List String :=
  ((additions steps).filter fun a => group a.1).map Prod.snd

/-- Holders with their logs, and what has been handed out through whom. -/
structure LogSession where
  handles : List LogHandle
  logs : SharedLogs
  handedOut : List (Nat × List String)

namespace LogSession

def empty : LogSession := ⟨[], .empty, []⟩

/-- Does a step. Through a holder that is not there nothing is done. -/
def step (s : LogSession) : LogStep → LogSession
  | .new =>
    let (h, logs) := s.logs.new
    { s with handles := s.handles ++ [h], logs }
  | .clone i => { s with handles := s.handles ++ (s.handles[i]?).toList }
  | .add i message =>
    match s.handles[i]? with
    | none => s
    | some h => { s with logs := s.logs.add h message }
  | .drain i =>
    match s.handles[i]? with
    | none => s
    | some h =>
      let (messages, logs) := s.logs.drain h
      { s with logs, handedOut := s.handedOut ++ [(i, messages)] }

def run (steps : List LogStep) : LogSession := steps.foldl step empty

/-- The messages that a holder has before it. -/
def messages (s : LogSession) (i : Nat) : List String :=
  ((s.handles[i]?).map s.logs.messages).getD []

open Classical in
/-- What has been handed out through some of the holders. -/
noncomputable def handedThrough (group : Nat → Prop) (s : LogSession) : List String :=
  (s.handedOut.filter fun d => group d.1).flatMap Prod.snd

theorem run_concat (steps : List LogStep) (step : LogStep) :
    run (steps ++ [step]) = (run steps).step step := List.foldl_append

end LogSession

/-! ## Groups -/

section

variable {steps : List LogStep} {step : LogStep} {i j : Nat}

theorem holderCount_concat (steps : List LogStep) (step : LogStep) :
    holderCount (steps ++ [step]) = holderCount steps + if step.isBirth then 1 else 0 := by
  rw [holderCount, List.countP_append, List.countP_singleton]
  rfl

theorem heldFrom_append {n : Nat} {steps later : List LogStep} :
    HeldFrom n (steps ++ later) ↔ HeldFrom n steps ∧ HeldFrom (n + holderCount steps) later := by
  induction steps generalizing n with
  | nil => simp [HeldFrom, holderCount]
  | cons step steps ih =>
      have hcount : n + holderCount (step :: steps) =
          (n + if step.isBirth then 1 else 0) + holderCount steps := by
        rw [holderCount, List.countP_cons, holderCount]
        omega
      rw [List.cons_append, HeldFrom, ih, hcount, HeldFrom, and_assoc]

theorem heldFrom_concat {steps : List LogStep} {step : LogStep} :
    HeldFrom 0 (steps ++ [step]) ↔
      HeldFrom 0 steps ∧ ∀ i ∈ step.holder?, i < holderCount steps := by
  rw [heldFrom_append, Nat.zero_add]
  simp [HeldFrom]

theorem copied_concat :
    Copied (steps ++ [step]) i j ↔ Copied steps i j ∨ step = .clone i ∧ j = holderCount steps := by
  constructor
  · rintro ⟨before, hprefix, rfl⟩
    rcases List.prefix_concat_iff.mp hprefix with heq | hprefix
    · obtain ⟨rfl, hlast⟩ := List.append_inj' heq rfl
      exact .inr ⟨(List.singleton_inj.mp hlast).symm, rfl⟩
    · exact .inl ⟨before, hprefix, rfl⟩
  · rintro (⟨before, hprefix, rfl⟩ | ⟨rfl, rfl⟩)
    · exact ⟨before, hprefix.trans (List.prefix_append _ _), rfl⟩
    · exact ⟨steps, List.prefix_rfl, rfl⟩

theorem Connected.concat (h : Connected steps i j) (step : LogStep) :
    Connected (steps ++ [step]) i j :=
  Relation.EqvGen.mono (fun _ _ hcopied => copied_concat.mpr (.inl hcopied)) i j h

/-- What is the same for a holder and its copies is the same for all of a group. -/
theorem Connected.eq {α : Type} {f : Nat → α} (hf : ∀ i j, Copied steps i j → f i = f j)
    (h : Connected steps i j) : f i = f j := by
  induction h with
  | rel i j hcopied => exact hf i j hcopied
  | refl i => rfl
  | symm i j _ ih => exact ih.symm
  | trans i j k _ _ ih ih' => exact ih.trans ih'

theorem additions_concat_of_none (h : step.addition? = none) :
    additions (steps ++ [step]) = additions steps := by
  simp [additions, List.filterMap_append, h]

theorem additions_concat_add (i : Nat) (message : String) :
    additions (steps ++ [.add i message]) = additions steps ++ [(i, message)] := by
  simp [additions, List.filterMap_append, LogStep.addition?]

theorem addedThrough_congr {group group' : Nat → Prop}
    (h : ∀ a ∈ additions steps, group a.1 ↔ group' a.1) :
    addedThrough group steps = addedThrough group' steps := by
  classical
  rw [addedThrough, addedThrough]
  congr 1
  exact List.filter_congr fun a ha => decide_eq_decide.mpr (h a ha)

theorem addedThrough_concat_of_none (group : Nat → Prop) (h : step.addition? = none) :
    addedThrough group (steps ++ [step]) = addedThrough group steps := by
  rw [addedThrough, additions_concat_of_none h, addedThrough]

open Classical in
theorem addedThrough_concat_add (group : Nat → Prop) (i : Nat) (message : String) :
    addedThrough group (steps ++ [.add i message]) =
      addedThrough group steps ++ if group i then [message] else [] := by
  by_cases h : group i <;> simp [addedThrough, additions_concat_add, h]

end

/-! ## One log -/

namespace SharedLogs

theorem messages_new (s : SharedLogs) (h : LogHandle) : s.new.2.messages h = s.messages h := by
  rw [messages, messages, new]
  rcases Nat.lt_trichotomy h.log s.logs.length with hlt | heq | hgt
  · rw [List.getElem?_append_left hlt]
  · simp [heq]
  · have hlength : (s.logs ++ [[]]).length ≤ h.log := by
      rw [List.length_append]
      exact hgt
    rw [List.getElem?_eq_none hlength, List.getElem?_eq_none (Nat.le_of_lt hgt)]

theorem messages_of_length_le {s : SharedLogs} {h : LogHandle} (hh : s.logs.length ≤ h.log) :
    s.messages h = [] := by
  rw [messages, List.getElem?_eq_none hh]
  rfl

theorem messages_add_of_lt {s : SharedLogs} {h : LogHandle} (hh : h.log < s.logs.length)
    (k : LogHandle) (message : String) :
    (s.add h message).messages k = s.messages k ++ if k = h then [message] else [] := by
  rcases Nat.lt_or_ge k.log s.logs.length with hk | hk
  · rw [messages_add s h k message hk]
    split <;> simp
  · have hne : k ≠ h := by
      rintro rfl
      omega
    have hk' : (s.add h message).logs.length ≤ k.log := by simpa [add] using hk
    rw [messages_of_length_le hk, messages_of_length_le hk', if_neg hne]
    rfl

theorem length_add (s : SharedLogs) (h : LogHandle) (message : String) :
    (s.add h message).logs.length = s.logs.length := by simp [add]

theorem length_drain (s : SharedLogs) (h : LogHandle) :
    (s.drain h).2.logs.length = s.logs.length := by simp [drain]

end SharedLogs

namespace LogSession

variable {steps : List LogStep} {s : LogSession} {h : LogHandle} {i j : Nat}

theorem handedThrough_congr {group group' : Nat → Prop}
    (h : ∀ d ∈ s.handedOut, group d.1 ↔ group' d.1) :
    s.handedThrough group = s.handedThrough group' := by
  classical
  rw [handedThrough, handedThrough]
  congr 1
  exact List.filter_congr fun d hd => decide_eq_decide.mpr (h d hd)

/-! ## What steps keep -/

/-- Holders have the same handle if and only if they are connected. -/
structure Shared (steps : List LogStep) (s : LogSession) : Prop where
  length : s.handles.length = holderCount steps
  known : ∀ h ∈ s.handles, h.log < s.logs.logs.length
  copied : ∀ i j, Copied steps i j → ∃ h, s.handles[i]? = some h ∧ s.handles[j]? = some h
  connected : ∀ i j h, s.handles[i]? = some h → s.handles[j]? = some h → Connected steps i j

/-- The messages of each log are those that were added to it. -/
structure Balanced (steps : List LogStep) (s : LogSession) : Prop where
  added : ∀ a ∈ additions steps, a.1 < s.handles.length
  handed : ∀ d ∈ s.handedOut, d.1 < s.handles.length
  balanced : ∀ h, s.handedThrough (s.handles[·]? = some h) ++ s.logs.messages h =
    addedThrough (s.handles[·]? = some h) steps

theorem Shared.connected_iff (hs : Shared steps s) (hi : s.handles[i]? = some h) :
    Connected steps i j ↔ s.handles[j]? = some h := by
  constructor
  · intro hconnected
    have heq : s.handles[i]? = s.handles[j]? := hconnected.eq fun i j hcopied => by
      obtain ⟨h, hi, hj⟩ := hs.copied i j hcopied
      rw [hi, hj]
    rw [← heq, hi]
  · exact hs.connected i j h hi

theorem Shared.getElem? (hs : Shared steps s) (hi : i < holderCount steps) :
    ∃ h, s.handles[i]? = some h ∧ h.log < s.logs.logs.length := by
  rw [← hs.length] at hi
  exact ⟨s.handles[i], List.getElem?_eq_getElem hi, hs.known _ (List.getElem_mem hi)⟩

theorem getElem?_concat_eq_some {l : List LogHandle} {k : LogHandle} :
    (l ++ [k])[i]? = some h ↔ l[i]? = some h ∨ i = l.length ∧ k = h := by
  rcases Nat.lt_trichotomy i l.length with hlt | rfl | hgt
  · rw [List.getElem?_append_left hlt]
    simp [Nat.ne_of_lt hlt]
  · simp
  · have hlength : (l ++ [k]).length ≤ i := by
      rw [List.length_append]
      exact hgt
    simp [List.getElem?_eq_none hlength, List.getElem?_eq_none (Nat.le_of_lt hgt),
      Nat.ne_of_gt hgt]

/-- A holder comes, either as a copy or with a log that nobody else has. -/
theorem Shared.grow (hs : Shared steps s) {step : LogStep} {logs : SharedLogs}
    (hbirth : step.isBirth = true) (hlogs : s.logs.logs.length ≤ logs.logs.length)
    (hh : h.log < logs.logs.length) (hcopy : ∀ i, step = .clone i → s.handles[i]? = some h)
    (hfresh : h ∈ s.handles → ∃ i, step = .clone i) :
    Shared (steps ++ [step]) ⟨s.handles ++ [h], logs, s.handedOut⟩ := by
  -- Whoever has the handle of the new holder is connected with it by way of the one that is copied.
  have hnew : ∀ j, (s.handles ++ [h])[j]? = some h →
      Connected (steps ++ [step]) s.handles.length j := by
    intro j hj
    rcases getElem?_concat_eq_some.mp hj with hj | ⟨rfl, -⟩
    · obtain ⟨i, rfl⟩ := hfresh (List.mem_of_getElem? hj)
      have hcopied : Copied (steps ++ [.clone i]) i s.handles.length :=
        copied_concat.mpr (.inr ⟨rfl, hs.length⟩)
      exact .trans _ _ _ (.symm _ _ (.rel _ _ hcopied))
        ((hs.connected i j h (hcopy i rfl) hj).concat _)
    · exact .refl _
  constructor
  · rw [List.length_append, hs.length, holderCount_concat, hbirth]
    rfl
  · intro k hk
    rcases List.mem_append.mp hk with hk | hk
    · exact Nat.lt_of_lt_of_le (hs.known k hk) hlogs
    · rwa [List.mem_singleton.mp hk]
  · intro i j hcopied
    simp only [getElem?_concat_eq_some]
    rcases copied_concat.mp hcopied with hcopied | ⟨rfl, rfl⟩
    · obtain ⟨k, hi, hj⟩ := hs.copied i j hcopied
      exact ⟨k, .inl hi, .inl hj⟩
    · exact ⟨h, .inl (hcopy i rfl), .inr ⟨hs.length.symm, rfl⟩⟩
  · intro i j k hi hj
    by_cases hk : k = h
    · subst hk
      exact .trans _ _ _ (.symm _ _ (hnew i hi)) (hnew j hj)
    · have hold : ∀ {l : Nat}, (s.handles ++ [h])[l]? = some k → s.handles[l]? = some k :=
        fun hl => (getElem?_concat_eq_some.mp hl).resolve_right fun hlast => hk hlast.2.symm
      exact (hs.connected i j k (hold hi) (hold hj)).concat step

theorem Shared.stay (hs : Shared steps s) {step : LogStep} {logs : SharedLogs}
    {handedOut : List (Nat × List String)} (hbirth : step.isBirth = false)
    (hlogs : logs.logs.length = s.logs.logs.length) :
    Shared (steps ++ [step]) ⟨s.handles, logs, handedOut⟩ := by
  constructor
  · rw [hs.length, holderCount_concat, hbirth]
    rfl
  · intro k hk
    rw [hlogs]
    exact hs.known k hk
  · intro i j hcopied
    rcases copied_concat.mp hcopied with hcopied | ⟨rfl, -⟩
    · exact hs.copied i j hcopied
    · cases hbirth
  · intro i j k hi hj
    exact (hs.connected i j k hi hj).concat step

theorem Balanced.grow (hb : Balanced steps s) {step : LogStep} {logs : SharedLogs}
    (hstep : step.addition? = none) (hlogs : ∀ k, logs.messages k = s.logs.messages k) :
    Balanced (steps ++ [step]) ⟨s.handles ++ [h], logs, s.handedOut⟩ := by
  constructor
  · intro a ha
    rw [additions_concat_of_none hstep] at ha
    have hlt := hb.added a ha
    simp only [List.length_append]
    omega
  · intro d hd
    have hlt := hb.handed d hd
    simp only [List.length_append]
    omega
  · intro k
    have hsame : ∀ {i : Nat}, i < s.handles.length →
        ((s.handles ++ [h])[i]? = some k ↔ s.handles[i]? = some k) :=
      fun hi => by rw [List.getElem?_append_left hi]
    have hadded : addedThrough ((s.handles ++ [h])[·]? = some k) (steps ++ [step]) =
        addedThrough (s.handles[·]? = some k) steps :=
      (addedThrough_concat_of_none _ hstep).trans
        (addedThrough_congr fun a ha => hsame (hb.added a ha))
    have hhanded : s.handedThrough ((s.handles ++ [h])[·]? = some k) =
        s.handedThrough (s.handles[·]? = some k) :=
      handedThrough_congr fun d hd => hsame (hb.handed d hd)
    show s.handedThrough ((s.handles ++ [h])[·]? = some k) ++ logs.messages k = _
    rw [hadded, hhanded, hlogs, hb.balanced]

theorem Balanced.add (hb : Balanced steps s) (hi : s.handles[i]? = some h)
    (hh : h.log < s.logs.logs.length) (message : String) :
    Balanced (steps ++ [.add i message]) ⟨s.handles, s.logs.add h message, s.handedOut⟩ := by
  constructor
  · intro a ha
    rw [additions_concat_add] at ha
    rcases List.mem_append.mp ha with ha | ha
    · exact hb.added a ha
    · obtain rfl := List.mem_singleton.mp ha
      exact (List.getElem?_eq_some_iff.mp hi).1
  · exact hb.handed
  · intro k
    have hmeant : s.handles[i]? = some k ↔ k = h := by
      rw [hi]
      exact ⟨fun heq => (Option.some.inj heq).symm, fun heq => congrArg some heq.symm⟩
    show s.handedThrough (s.handles[·]? = some k) ++ (s.logs.add h message).messages k = _
    rw [SharedLogs.messages_add_of_lt hh, addedThrough_concat_add, ← List.append_assoc,
      hb.balanced]
    simp only [hmeant]

theorem Balanced.drain (hb : Balanced steps s) (hi : s.handles[i]? = some h) :
    Balanced (steps ++ [.drain i])
      ⟨s.handles, (s.logs.drain h).2, s.handedOut ++ [(i, s.logs.messages h)]⟩ := by
  classical
  constructor
  · rw [additions_concat_of_none rfl]
    exact hb.added
  · intro d hd
    rcases List.mem_append.mp hd with hd | hd
    · exact hb.handed d hd
    · obtain rfl := List.mem_singleton.mp hd
      exact (List.getElem?_eq_some_iff.mp hi).1
  · intro k
    have hmeant : s.handles[i]? = some k ↔ k = h := by
      rw [hi]
      exact ⟨fun heq => (Option.some.inj heq).symm, fun heq => congrArg some heq.symm⟩
    rw [addedThrough_concat_of_none _ rfl, ← hb.balanced k, handedThrough, handedThrough]
    -- What has been in the log is the last that has been handed out.
    by_cases hk : k = h
    · subst hk
      simp [SharedLogs.messages_drain, hi]
    · have hother : ¬ s.handles[i]? = some k := fun heq => hk (hmeant.mp heq)
      simp [SharedLogs.messages_drain, hk, hother]

theorem kept_run (steps : List LogStep) (hheld : HeldFrom 0 steps) :
    Shared steps (run steps) ∧ Balanced steps (run steps) := by
  induction steps using List.reverseRecOn with
  | nil =>
      refine ⟨⟨rfl, nofun, ?_, nofun⟩, ⟨nofun, nofun, fun h => rfl⟩⟩
      rintro i j ⟨before, hprefix, -⟩
      simp at hprefix
  | append_singleton steps step ih =>
      obtain ⟨hsteps, hstep⟩ := heldFrom_concat.mp hheld
      obtain ⟨hs, hb⟩ := ih hsteps
      rw [run_concat]
      generalize run steps = s at hs hb
      cases step with
      | new =>
          have hfresh : (⟨s.logs.logs.length⟩ : LogHandle) ∉ s.handles := fun hmem =>
            absurd (hs.known _ hmem) (Nat.lt_irrefl _)
          refine ⟨hs.grow rfl ?_ ?_ nofun fun hmem => absurd hmem hfresh,
            hb.grow rfl (SharedLogs.messages_new s.logs)⟩
          · simp
          · simp
      | clone i =>
          obtain ⟨h, hi, hlt⟩ := hs.getElem? (hstep i rfl)
          have hrun : s.step (.clone i) = ⟨s.handles ++ [h], s.logs, s.handedOut⟩ := by
            simp [LogSession.step, hi]
          rw [hrun]
          refine ⟨hs.grow rfl (Nat.le_refl _) hlt ?_ fun _ => ⟨i, rfl⟩, hb.grow rfl fun _ => rfl⟩
          intro j hj
          obtain rfl := LogStep.clone.inj hj
          exact hi
      | add i message =>
          obtain ⟨h, hi, hlt⟩ := hs.getElem? (hstep i rfl)
          have hrun : s.step (.add i message) =
              ⟨s.handles, s.logs.add h message, s.handedOut⟩ := by simp [LogSession.step, hi]
          rw [hrun]
          exact ⟨hs.stay rfl (s.logs.length_add h message), hb.add hi hlt message⟩
      | drain i =>
          obtain ⟨h, hi, -⟩ := hs.getElem? (hstep i rfl)
          have hrun : s.step (.drain i) = ⟨s.handles, (s.logs.drain h).2,
              s.handedOut ++ [(i, s.logs.messages h)]⟩ := by
            simp [LogSession.step, hi, SharedLogs.drain]
          rw [hrun]
          exact ⟨hs.stay rfl (s.logs.length_drain h), hb.drain hi⟩

open Classical in
/-- Of the messages that are added to a group none is lost, doubled or misplaced, and whoever
empties the log empties it for its group and for nobody else. -/
theorem handedThrough_append_messages (steps : List LogStep) (hheld : HeldFrom 0 steps) :
    (∀ a < holderCount steps, (run steps).handedThrough (Connected steps a) ++
      (run steps).messages a = addedThrough (Connected steps a) steps) ∧
    ∀ before i, before ++ [.drain i] <+: steps → ∀ a < holderCount before,
      (run (before ++ [.drain i])).messages a =
        if Connected before i a then [] else (run before).messages a := by
  refine ⟨fun a ha => ?_, fun before i hprefix a ha => ?_⟩
  · obtain ⟨hs, hb⟩ := kept_run steps hheld
    obtain ⟨h, hh, -⟩ := hs.getElem? ha
    have hgroup : Connected steps a = ((run steps).handles[·]? = some h) :=
      funext fun i => propext (hs.connected_iff hh)
    rw [hgroup, messages, hh]
    exact hb.balanced h
  · obtain ⟨later, rfl⟩ := hprefix
    obtain ⟨hbefore, hi⟩ := heldFrom_concat.mp (heldFrom_append.mp hheld).1
    obtain ⟨hs, -⟩ := kept_run before hbefore
    obtain ⟨h, hh, -⟩ := hs.getElem? (hi i rfl)
    obtain ⟨k, hk, -⟩ := hs.getElem? ha
    have hrun : run (before ++ [.drain i]) = ⟨(run before).handles, ((run before).logs.drain h).2,
        (run before).handedOut ++ [(i, (run before).logs.messages h)]⟩ := by
      simp [run_concat, step, hh, SharedLogs.drain]
    rw [hrun, messages, messages, hk, hs.connected_iff hh, hk]
    simp [SharedLogs.messages_drain]

/-- Copies before and after the log is emptied, and another log. -/
def aliasing : List LogStep :=
  [.new, .add 0 "a", .clone 0, .new, .add 2 "x", .add 1 "b", .drain 0, .clone 1, .add 3 "c",
    .add 0 "c", .drain 2]

theorem handedThrough_append_messages_aliasing :
    HeldFrom 0 aliasing ∧ (run aliasing).handedOut = [(0, ["a", "b"]), (2, ["x"])] ∧
      (run aliasing).handedThrough (Connected aliasing 1) ++ ["c", "c"] =
        addedThrough (Connected aliasing 1) aliasing ∧
      ¬ Connected (aliasing.take 10) 2 1 := by
  have hheld : HeldFrom 0 aliasing := by decide
  obtain ⟨haccount, hdrain⟩ := handedThrough_append_messages aliasing hheld
  have hlast := hdrain (aliasing.take 10) 2 List.prefix_rfl 1 (by decide)
  have hmessages : (run aliasing).messages 1 = ["c", "c"] := by decide
  refine ⟨hheld, by decide, ?_, fun hconnected => ?_⟩
  · rw [← hmessages]
    exact haccount 1 (by decide)
  · rw [if_pos hconnected] at hlast
    cases hmessages.symm.trans hlast

end LogSession

end LoadScenario
