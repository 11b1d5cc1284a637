import LoadScenario.Proofs.WorkRun
import LoadScenario.Simulation.BodyWork
import Mathlib.Data.List.Induction
import Mathlib.Data.List.Nodup

/-!
# The tasks on the bodies

For each request with a body there is a check, and in front of it a write if the body has content
that is known. `Underway` is what holds of the tasks at any time, whoever has run when: what has
been performed and what is left make up these steps, each once, and no check has been performed or
is free to go before its own write has been performed.

A task does not know its request any more, so `Fits` says of each task that it is one of the few
shapes that the work on some body can be in.
-/

namespace LoadScenario

open Work

/-- What has to be done about the body of a request. -/
structure BodyJob where
  request : String
  path : Path
  content : Option String

namespace BodyJob

def write? (j : BodyJob) : Option BodyStep := j.content.map (.write j.path)

def check (j : BodyJob) : BodyStep := .check j.request j.path

def steps (j : BodyJob) : List BodyStep := j.write?.toList ++ [j.check]

theorem check_mem_steps (j : BodyJob) : j.check ∈ j.steps :=
  List.mem_append_right _ (List.mem_singleton_self _)

theorem write_ne_check {j j' : BodyJob} {w : BodyStep} (hw : j.write? = some w) : w ≠ j'.check := by
  obtain ⟨content, -, rfl⟩ := Option.map_eq_some_iff.mp hw
  exact nofun

end BodyJob

/-- The file that a step is about. -/
def BodyStep.path : BodyStep → Path
  | write path _ | check _ path => path

theorem BodyJob.path_of_mem_steps {j : BodyJob} {e : BodyStep} (he : e ∈ j.steps) :
    e.path = j.path := by
  rcases List.mem_append.mp he with hwrite | hcheck
  · obtain ⟨content, -, rfl⟩ := Option.map_eq_some_iff.mp (Option.mem_toList.mp hwrite)
    rfl
  · rw [List.mem_singleton.mp hcheck]
    rfl

theorem BodyJob.content_of_mem_steps {j : BodyJob} {path : Path} {content : String}
    (h : .write path content ∈ j.steps) : j.content = some content := by
  rcases List.mem_append.mp h with hwrite | hcheck
  · obtain ⟨content, hcontent, hstep⟩ := Option.map_eq_some_iff.mp (Option.mem_toList.mp hwrite)
    rw [hcontent, (BodyStep.write.inj hstep).2]
  · cases List.mem_singleton.mp hcheck

/-- The jobs of requests. -/
def bodyJobs (bodies : Path) (simulation : String) (rs : List Request) : List BodyJob :=
  rs.filterMap fun r => r.body.map fun b => ⟨r.name, b.path bodies simulation, b.contentToWrite?⟩

/-- Registers the work of a job. -/
def addJob (t : Tracker BodyStep) (j : BodyJob) : Tracker BodyStep :=
  addBodyFile j.request j.path j.content t

theorem bodyWork_eq (bodies : Path) (simulation : String) (rs : List Request) :
    bodyWork bodies simulation rs = (bodyJobs bodies simulation rs).foldl addJob .empty := by
  rw [bodyWork, bodyJobs, List.foldl_filterMap]
  congr 1
  funext t r
  rw [addBodyWork]
  cases r.body with
  | none => rfl
  | some b => rfl

/-- The shapes that a task on a body can be in. -/
inductive Fits (jobs : List BodyJob) (performed : List BodyStep) (t : Tracker BodyStep) :
    Work.Task BodyStep → Prop where
  | ended : Fits jobs performed t .done
  | write {j : BodyJob} {w : BodyStep} (hj : j ∈ jobs) (hw : j.write? = some w) :
    Fits jobs performed t (.perform w .done)
  | check {j : BodyJob} (hj : j ∈ jobs) (hwritten : ∀ w, j.write? = some w → w ∈ performed) :
    Fits jobs performed t (.perform j.check .done)
  | await {j : BodyJob} {w : BodyStep} {h : Handle} (hj : j ∈ jobs) (hw : j.write? = some w)
    (hwritten : t.tasks[h]? = some (.perform w .done) ∨ w ∈ performed) :
    Fits jobs performed t (.await h (.perform j.check .done))

/-- How it stands with the jobs after some steps. -/
structure Underway (jobs : List BodyJob) (performed : List BodyStep) (t : Tracker BodyStep) :
    Prop where
  sound : t.Sound
  awaited : t.Awaited
  steps : (performed ++ t.effects).Perm (jobs.flatMap BodyJob.steps)
  fits : ∀ (h : Handle) (task : Work.Task BodyStep), t.tasks[h]? = some task →
    Fits jobs performed t task
  ordered : ∀ j ∈ jobs, j.check ∈ performed → ∀ w, j.write? = some w → w ∈ performed

variable {jobs jobs' : List BodyJob} {performed performed' : List BodyStep}
  {t t' : Tracker BodyStep} {task : Work.Task BodyStep}

/-- A task goes on fitting while others take their turns. -/
theorem Fits.mono (hfits : Fits jobs performed t task) (hjobs : ∀ j ∈ jobs, j ∈ jobs')
    (hperformed : ∀ w ∈ performed, w ∈ performed')
    (htasks : ∀ (h : Handle) (w : BodyStep), t.tasks[h]? = some (.perform w .done) →
      t'.tasks[h]? = some (.perform w .done) ∨ w ∈ performed') : Fits jobs' performed' t' task := by
  cases hfits with
  | ended => exact .ended
  | write hj hw => exact .write (hjobs _ hj) hw
  | check hj hwritten => exact .check (hjobs _ hj) fun w hw => hperformed w (hwritten w hw)
  | await hj hw hwritten =>
      refine .await (hjobs _ hj) hw ?_
      rcases hwritten with htask | hmem
      · exact htasks _ _ htask
      · exact .inr (hperformed _ hmem)

/-! ## The beginning -/

theorem fits_add (hfits : ∀ (h : Handle) (task : Work.Task BodyStep), t.tasks[h]? = some task →
      Fits jobs performed t task) {new : Work.Task BodyStep}
    (hnew : Fits jobs performed (t.add new).2 new) :
    ∀ (h : Handle) (task : Work.Task BodyStep), (t.add new).2.tasks[h]? = some task →
      Fits jobs performed (t.add new).2 task := by
  intro h task htask
  have hlt := Tracker.lt_size_of_getElem? htask
  rw [Tracker.size_add] at hlt
  rcases Nat.lt_succ_iff_lt_or_eq.mp hlt with hlt | rfl
  · rw [Tracker.getElem?_add_of_lt hlt] at htask
    refine (hfits h task htask).mono (fun _ hj => hj) (fun _ hw => hw) fun k w hk => .inl ?_
    rw [Tracker.getElem?_add_of_lt (Tracker.lt_size_of_getElem? hk), hk]
  · rw [Tracker.getElem?_add_self] at htask
    obtain rfl := Option.some.inj htask
    exact hnew

theorem underway_nil : Underway [] [] .empty where
  sound _ _ h := by cases h
  awaited := ⟨nofun, fun h hlt => absurd hlt (Nat.not_lt_zero h)⟩
  steps := .refl _
  fits _ _ h := by cases h
  ordered := nofun

theorem Underway.addJob (h : Underway jobs [] t) (j : BodyJob) :
    Underway (jobs ++ [j]) [] (addJob t j) := by
  have hj : j ∈ jobs ++ [j] := List.mem_append_right _ (List.mem_singleton_self _)
  have hfits : ∀ (k : Handle) (task : Work.Task BodyStep), t.tasks[k]? = some task →
      Fits (jobs ++ [j]) [] t task := by
    intro k task htask
    exact (h.fits k task htask).mono (fun _ hj => List.mem_append_left _ hj) (fun _ hw => hw)
      fun _ _ hk => .inl hk
  have hsteps := h.steps.append_right j.steps
  rw [List.nil_append] at hsteps
  rw [LoadScenario.addJob]
  cases hcontent : j.content with
  | none =>
      have hwrite : j.write? = none := by rw [BodyJob.write?, hcontent]; rfl
      rw [addBodyFile]
      refine ⟨h.sound.add trivial, h.awaited.add _, ?_, ?_, nofun⟩
      · rw [List.flatMap_append, List.flatMap_singleton, Tracker.effects_add]
        rw [BodyJob.steps, hwrite] at hsteps ⊢
        exact hsteps
      · refine fits_add hfits (.check hj ?_)
        rw [hwrite]
        exact nofun
  | some content =>
      have hwrite : j.write? = some (.write j.path content) := by
        rw [BodyJob.write?, hcontent]
        rfl
      rw [addBodyFile]
      have hsound : (t.add (.perform (.write j.path content) .done)).2.Sound :=
        h.sound.add trivial
      refine ⟨hsound.add ⟨?_, trivial⟩, (h.awaited.add _).add _, ?_, ?_, nofun⟩
      · rw [Tracker.size_add]
        exact Nat.lt_succ_self _
      · rw [List.flatMap_append, List.flatMap_singleton, Tracker.effects_add, Tracker.effects_add]
        rw [BodyJob.steps, hwrite] at hsteps ⊢
        rw [List.nil_append, List.append_assoc]
        exact hsteps
      · refine fits_add (fits_add hfits (.write hj hwrite)) (.await hj hwrite (.inl ?_))
        rw [Tracker.getElem?_add_of_lt (by rw [Tracker.size_add]; exact Nat.lt_succ_self _)]
        exact Tracker.getElem?_add_self _ _

theorem underway_bodyJobs (jobs : List BodyJob) : Underway jobs [] (jobs.foldl addJob .empty) := by
  induction jobs using List.reverseRecOn with
  | nil => exact underway_nil
  | append_singleton jobs j ih =>
      rw [List.foldl_append]
      exact ih.addJob j

/-! ## A turn -/

theorem fits_update (hfits : ∀ (h : Handle) (task : Work.Task BodyStep),
      t.tasks[h]? = some task → Fits jobs performed t task) {h : Handle}
    {old new : Work.Task BodyStep} (hold : t.tasks[h]? = some old)
    (hperformed : ∀ w ∈ performed, w ∈ performed')
    (hwritten : ∀ w, old = .perform w .done → w ∈ performed')
    (hnew : Fits jobs performed' (t.update h new) new) :
    ∀ (k : Handle) (task : Work.Task BodyStep), (t.update h new).tasks[k]? = some task →
      Fits jobs performed' (t.update h new) task := by
  intro k task htask
  by_cases hk : k = h
  · subst hk
    rw [Tracker.getElem?_update_self (Tracker.lt_size_of_getElem? hold)] at htask
    obtain rfl := Option.some.inj htask
    exact hnew
  · rw [Tracker.getElem?_update_of_ne hk] at htask
    refine (hfits k task htask).mono (fun _ hj => hj) hperformed fun k' w hk' => ?_
    by_cases hne : k' = h
    · subst hne
      exact .inr (hwritten w (Option.some.inj (hold.symm.trans hk')))
    · exact .inl (by rw [Tracker.getElem?_update_of_ne hne, hk'])

/-- Whoever has its turn, no check comes before its own write. -/
theorem Underway.advance (hpaths : ∀ j ∈ jobs, ∀ j' ∈ jobs, j.path = j'.path → j = j')
    (hunderway : Underway jobs performed t) (h : Handle) :
    Underway jobs (performed ++ (t.advance h).1.toList) (t.advance h).2 := by
  have hsteps := ((t.perm_advance h).append_left performed).trans hunderway.steps
  rw [← List.append_assoc] at hsteps
  have hsound := hunderway.sound.advance h
  have hawaited : (t.advance h).2.Awaited := hunderway.awaited.play [h]
  have hadvances := t.advances h
  generalize (t.advance h).1 = effect, (t.advance h).2 = t' at *
  refine ⟨hsound, hawaited, hsteps, ?_, ?_⟩
  · cases hadvances with
    | ended | waits => simpa using hunderway.fits
    | @performs effect rest htask =>
        have hmem : ∀ w ∈ performed, w ∈ performed ++ [effect] :=
          fun w hw => List.mem_append_left _ hw
        -- A write and a check are each the last that their tasks do.
        have hrest : rest = .done := by
          cases hunderway.fits h _ htask with
          | write | check => rfl
        subst hrest
        refine fits_update hunderway.fits htask hmem (fun w hw => ?_) .ended
        cases hw
        exact List.mem_append_right _ (List.mem_singleton_self _)
    | @goesOn other rest htask hother =>
        refine fits_update hunderway.fits htask (by simp) nofun ?_
        cases hunderway.fits h _ htask with
        | await hj hw hwritten =>
            refine .check hj fun w' hw' => List.mem_append_left _ ?_
            obtain rfl := Option.some.inj (hw.symm.trans hw')
            rcases hwritten with hwaits | hmem
            · rw [Tracker.isOver, hwaits] at hother
              cases hother
            · exact hmem
    | registers htask => cases hunderway.fits h _ htask
  · cases hadvances with
    | ended | waits | goesOn => simpa using hunderway.ordered
    | @performs effect rest htask =>
        intro j hj hcheck w hw
        refine List.mem_append_left _ ?_
        rcases List.mem_append.mp hcheck with hold | hnew
        · exact hunderway.ordered j hj hold w hw
        · have heffect : j.check = effect := List.mem_singleton.mp hnew
          cases hunderway.fits h _ htask with
          | write _ hw' => exact absurd heffect.symm (BodyJob.write_ne_check hw')
          | check hj' hwritten =>
              -- Two jobs with one path could take each other's checks for their own.
              obtain rfl := hpaths j hj _ hj' (BodyStep.check.inj heffect).2
              exact hwritten w hw
    | registers htask => cases hunderway.fits h _ htask

/-- Whom somebody waits for makes no difference to how the tasks stand. -/
theorem Underway.congr (hunderway : Underway jobs performed t) (htasks : t'.tasks = t.tasks)
    (hawaited : t'.Awaited) : Underway jobs performed t' := by
  obtain ⟨tasks, pending⟩ := t
  obtain ⟨_, pending'⟩ := t'
  obtain rfl := htasks
  refine ⟨hunderway.sound, hawaited, hunderway.steps, fun h task htask => ?_, hunderway.ordered⟩
  exact (hunderway.fits h task htask).mono (fun _ hj => hj) (fun _ hw => hw) fun _ _ hk => .inl hk

theorem Underway.exists_job (hunderway : Underway jobs performed t) {e : BodyStep}
    (he : e ∈ performed) : ∃ j ∈ jobs, e ∈ j.steps :=
  List.mem_flatMap.mp (hunderway.steps.subset (List.mem_append_left _ he))

/-- A step that is about to be performed has not been. -/
theorem Underway.not_mem (hunderway : Underway jobs performed t)
    (hnodup : (jobs.flatMap BodyJob.steps).Nodup) {h : Handle} {e : BodyStep}
    {rest : Work.Task BodyStep} (htask : t.tasks[h]? = some (.perform e rest)) : e ∉ performed := by
  intro hperformed
  have hleft : e ∈ t.effects := Tracker.mem_effects htask List.mem_cons_self
  have hdisjoint := List.disjoint_of_nodup_append (hunderway.steps.nodup_iff.mpr hnodup)
  exact hdisjoint hperformed hleft

/-- When a write is about to be performed, its check has not been. -/
theorem Underway.check_not_mem (hunderway : Underway jobs performed t)
    (hnodup : (jobs.flatMap BodyJob.steps).Nodup) {h : Handle} {w : BodyStep}
    {rest : Work.Task BodyStep} (htask : t.tasks[h]? = some (.perform w rest)) {j : BodyJob}
    (hj : j ∈ jobs) (hw : j.write? = some w) : j.check ∉ performed := fun hcheck =>
  hunderway.not_mem hnodup htask (hunderway.ordered j hj hcheck w hw)

/-- When a write is about to be performed, its file has not been written before. -/
theorem Underway.write_not_mem (hunderway : Underway jobs performed t)
    (hnodup : (jobs.flatMap BodyJob.steps).Nodup)
    (hpaths : ∀ j ∈ jobs, ∀ j' ∈ jobs, j.path = j'.path → j = j') {h : Handle} {path : Path}
    {content : String} {rest : Work.Task BodyStep}
    (htask : t.tasks[h]? = some (.perform (.write path content) rest)) (content' : String) :
    .write path content' ∉ performed := by
  intro hmem
  have hleft : .write path content ∈ t.effects := Tracker.mem_effects htask List.mem_cons_self
  obtain ⟨j, hj, hstep⟩ :=
    List.mem_flatMap.mp (hunderway.steps.subset (List.mem_append_right _ hleft))
  obtain ⟨j', hj', hstep'⟩ := hunderway.exists_job hmem
  have hpath : path = j.path := j.path_of_mem_steps hstep
  obtain rfl := hpaths j hj j' hj' (hpath.symm.trans (j'.path_of_mem_steps hstep'))
  have hcontent := (j.content_of_mem_steps hstep).symm.trans (j.content_of_mem_steps hstep')
  rw [← Option.some.inj hcontent] at hmem
  exact hunderway.not_mem hnodup htask hmem

/-- When all tasks are over, each step has been performed once. -/
theorem Underway.perm_of_isOver (hunderway : Underway jobs performed t)
    (hover : ∀ h, t.isOver h) : performed.Perm (jobs.flatMap BodyJob.steps) := by
  have hsteps := hunderway.steps
  rwa [Tracker.effects_eq_nil hover, List.append_nil] at hsteps

end LoadScenario
