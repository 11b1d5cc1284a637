import LoadScenario.Proofs.BodyTasks
import LoadScenario.Proofs.SteadyFiles
import LoadScenario.Simulation.Basic

/-!
# The files of the bodies

While an output is being written the files change all the time, and yet what has been found out
about the file of a body stays true. Only its own write changes the file of a body, because the
others go to other files, and that write is over when its check looks. So the warnings that have
come up are at any time those that the checks would give rise to if they all looked again now, and a
file whose write has been performed with success holds what was to be written. A write that has
failed may have left anything in its file.

`Settling` is kept by each turn of a task, whoever has it, and by whatever is written elsewhere. The
two files of the output are written elsewhere, whether that succeeds or fails, so the schedule and
its failures make no difference to the bodies.
-/

namespace LoadScenario

open Work LinkFree

/-- The warning that a step gives rise to. -/
def BodyStep.missing? {W : Type} [FileAccess (StateM W)] (w : W) : BodyStep → Option Warning
  | .write _ _ => none
  | .check request path => if path.opensIn w then none else some (.missingFile request path.text)

/-- The bodies of different jobs go to different files. -/
def Apart (here : Location) (jobs : List BodyJob) : Prop :=
  (jobs.map fun j => j.path.destination here).Nodup

theorem Apart.eq_of_destination_eq {here : Location} {jobs : List BodyJob} (h : Apart here jobs)
    {j j' : BodyJob} (hj : j ∈ jobs) (hj' : j' ∈ jobs)
    (heq : j.path.destination here = j'.path.destination here) : j = j' :=
  List.inj_on_of_nodup_map h hj hj' heq

theorem Apart.nodup_steps {here : Location} {jobs : List BodyJob} (h : Apart here jobs) :
    (jobs.flatMap BodyJob.steps).Nodup := by
  refine List.nodup_flatMap.mpr ⟨fun j _ => ?_, ?_⟩
  · rw [BodyJob.steps]
    cases hw : j.write? with
    | none => exact List.nodup_singleton _
    | some w =>
        have hne : w ≠ j.check := BodyJob.write_ne_check hw
        exact List.nodup_cons.mpr ⟨fun hmem => hne (List.mem_singleton.mp hmem),
          List.nodup_singleton _⟩
  · refine (List.pairwise_map.mp h).imp fun hne e he he' => hne ?_
    rw [← BodyJob.path_of_mem_steps he, ← BodyJob.path_of_mem_steps he']

variable {W : Type} [FileAccess (StateM W)] [SteadyFiles W]

/-- How it stands with the files of the bodies after some steps. -/
structure Settling (jobs : List BodyJob) (here : Location) (performed : List (BodyStep × W))
    (t : Tracker BodyStep) (ws : List Warning) (w : W) : Prop where
  here : toFileView.here w = here
  work : Underway jobs (performed.map Prod.fst) t
  leads : ∀ j ∈ jobs, j.path.LeadsIn w
  written : ∀ j ∈ jobs, ∀ content w₁, (.write j.path content, w₁) ∈ performed →
    (runOn (FileAccess.write j.path content : StateM W _) w₁).1 = .ok () →
      toFileView.file? w (j.path.destination (toFileView.here w)) = some (.text content)
  warnings : ws = (performed.map Prod.fst).filterMap (BodyStep.missing? w)

namespace Settling

variable {jobs : List BodyJob} {here : Location} {performed : List (BodyStep × W)}
  {t t' : Tracker BodyStep} {ws : List Warning} {w w' : W}

omit [SteadyFiles W] in
theorem warnings_congr {es : List BodyStep} (hunderway : Underway jobs es t)
    (h : ∀ j ∈ jobs, j.check ∈ es → j.path.opensIn w' = j.path.opensIn w) :
    es.filterMap (BodyStep.missing? w') = es.filterMap (BodyStep.missing? w) := by
  refine List.filterMap_congr fun e he => ?_
  obtain ⟨j, hj, hsteps⟩ := hunderway.exists_job he
  rcases List.mem_append.mp hsteps with hwrite | hcheck
  · obtain ⟨content, -, rfl⟩ := Option.map_eq_some_iff.mp (Option.mem_toList.mp hwrite)
    rfl
  · obtain rfl := List.mem_singleton.mp hcheck
    rw [BodyJob.check, BodyStep.missing?, BodyStep.missing?, h j hj he]

/-- What is written elsewhere makes no difference. -/
theorem undisturbed (h : Settling jobs here performed t ws w) {changed : Location → Prop}
    (hundisturbed : Undisturbed changed w w')
    (hchanged : ∀ j ∈ jobs, ¬ changed (j.path.destination here)) :
    Settling jobs here performed t ws w' := by
  have hpath : ∀ j ∈ jobs, ¬ changed (j.path.destination (toFileView.here w)) := by
    rw [h.here]
    exact hchanged
  refine ⟨hundisturbed.spares.here.trans h.here, h.work, fun j hj => ?_, ?_, ?_⟩
  · exact hundisturbed.leads j.path (hpath j hj) (h.leads j hj)
  · intro j hj content w₁ hmem hok
    rw [hundisturbed.spares.here, hundisturbed.spares.files _ (hpath j hj)]
    exact h.written j hj content w₁ hmem hok
  · rw [h.warnings]
    refine (warnings_congr h.work fun j hj _ => ?_).symm
    exact hundisturbed.opens j.path (hpath j hj) (h.leads j hj)

theorem write (hapart : Apart here jobs) (h : Settling jobs here performed t ws w)
    {j : BodyJob} {content : String} (hj : j ∈ jobs)
    (hcheck : j.check ∉ performed.map Prod.fst)
    (hnew : ∀ content, BodyStep.write j.path content ∉ performed.map Prod.fst)
    (hwork : Underway jobs ((performed ++ [(BodyStep.write j.path content, w)]).map Prod.fst) t') :
    Settling jobs here (performed ++ [(BodyStep.write j.path content, w)]) t' ws
      (runOn (FileAccess.write j.path content : StateM W _) w).2 := by
  have hundisturbed := SteadyFiles.undisturbed_write j.path content w
  -- The files of the other jobs are other files.
  have hother : ∀ j' ∈ jobs, j' ≠ j → ¬ j'.path.destination here = j.path.destination here :=
    fun j' hj' hne heq => hne (hapart.eq_of_destination_eq hj' hj heq)
  have hother' : ∀ j' ∈ jobs, j' ≠ j →
      ¬ j'.path.destination (toFileView.here w) = j.path.destination (toFileView.here w) := by
    rw [h.here]
    exact hother
  refine ⟨hundisturbed.spares.here.trans h.here, hwork, fun j' hj' => ?_, ?_, ?_⟩
  · by_cases hne : j' = j
    · rw [hne]
      exact SteadyFiles.leads_write j.path content w (h.leads j hj)
    · exact hundisturbed.leads j'.path (hother' j' hj' hne) (h.leads j' hj')
  · intro j' hj' content' w₁ hmem hok
    by_cases hne : j' = j
    · subst hne
      rcases List.mem_append.mp hmem with hold | hlast
      · exact absurd (List.mem_map_of_mem hold) (hnew content')
      · cases List.mem_singleton.mp hlast
        rw [hundisturbed.spares.here]
        exact StoresText.file?_write j'.path content w hok
    · rw [hundisturbed.spares.here, hundisturbed.spares.files _ (hother' j' hj' hne)]
      rcases List.mem_append.mp hmem with hold | hlast
      · exact h.written j' hj' content' w₁ hold hok
      · have hpath := (BodyStep.write.inj (Prod.mk.inj (List.mem_singleton.mp hlast)).1).1
        exact absurd (by rw [hpath]) (hother j' hj' hne)
  · have hsame := warnings_congr h.work fun j' hj' hmem => by
      have hne : j' ≠ j := by
        rintro rfl
        exact hcheck hmem
      exact hundisturbed.opens j'.path (hother' j' hj' hne) (h.leads j' hj')
    rw [List.map_append, List.filterMap_append, hsame, h.warnings]
    exact (List.append_nil _).symm

theorem check (h : Settling jobs here performed t ws w) {j : BodyJob} (hj : j ∈ jobs)
    (hwork : Underway jobs ((performed ++ [(j.check, w)]).map Prod.fst) t') :
    Settling jobs here (performed ++ [(j.check, w)]) t' (ws ++ (j.check.missing? w).toList)
      (runOn (FileAccess.acceptsWrites j.path : StateM W _) w).2 := by
  have hundisturbed := SteadyFiles.undisturbed_acceptsWrites j.path w
  have hgone : Settling jobs here performed t ws _ := h.undisturbed hundisturbed fun _ _ => id
  refine ⟨hgone.here, hwork, hgone.leads, ?_, ?_⟩
  · intro j' hj' content w₁ hmem
    rcases List.mem_append.mp hmem with hold | hlast
    · exact hgone.written j' hj' content w₁ hold
    · cases List.mem_singleton.mp hlast
  · have hopens := hundisturbed.opens j.path id (h.leads j hj)
    have hsame : j.check.missing? (runOn (FileAccess.acceptsWrites j.path : StateM W _) w).2 =
        j.check.missing? w := by
      rw [BodyJob.check, BodyStep.missing?, BodyStep.missing?, hopens]
    rw [List.map_append, List.filterMap_append, ← hgone.warnings, List.map_cons, List.map_nil,
      List.filterMap_cons, List.filterMap_nil, hsame]
    cases j.check.missing? w <;> rfl

theorem advance (hapart : Apart here jobs) (h : Settling jobs here performed t ws w)
    (k : Handle) :
    Settling jobs here (performed ++ bodyTrace (t.advance k).1.toList w) (t.advance k).2
      (ws ++ (runOn (runBodySteps (t.advance k).1.toList : StateM W _) w).1)
      (runOn (runBodySteps (t.advance k).1.toList : StateM W _) w).2 := by
  have hpaths : ∀ j ∈ jobs, ∀ j' ∈ jobs, j.path = j'.path → j = j' :=
    fun j hj j' hj' heq => hapart.eq_of_destination_eq hj hj' (by rw [heq])
  have hwork := h.work.advance hpaths k
  have hadvances := t.advances k
  generalize (t.advance k).1 = effect, (t.advance k).2 = t' at *
  have hnothing : Underway jobs (performed.map Prod.fst) t' →
      Settling jobs here (performed ++ []) t' (ws ++ []) w := by
    intro hwork
    rw [List.append_nil, List.append_nil]
    exact ⟨h.here, hwork, h.leads, h.written, h.warnings⟩
  cases hadvances with
  | ended | waits | goesOn | registers =>
      refine hnothing ?_
      rw [← List.append_nil (performed.map Prod.fst)]
      exact hwork
  | @performs e rest htask =>
      have hwork' : Underway jobs ((performed ++ [(e, w)]).map Prod.fst) (t.update k rest) := by
        rw [List.map_append]
        exact hwork
      cases h.work.fits k _ htask with
      | @write j _ hj hw =>
          obtain ⟨content, -, rfl⟩ := Option.map_eq_some_iff.mp hw
          have hcheck := h.work.check_not_mem hapart.nodup_steps htask hj hw
          have hwritten := h.write hapart hj hcheck
            (h.work.write_not_mem hapart.nodup_steps hpaths htask) hwork'
          rw [← List.append_nil ws] at hwritten
          exact hwritten
      | @check j hj _ =>
          have hrun : runOn (runBodySteps [j.check] : StateM W _) w =
              ((j.check.missing? w).toList,
                (runOn (FileAccess.acceptsWrites j.path : StateM W _) w).2) := by
            refine congrArg (·, _) (List.append_nil _)
          have hchecked := h.check hj hwork'
          rw [Option.toList_some, hrun]
          exact hchecked

theorem play (hapart : Apart here jobs) (h : Settling jobs here performed t ws w)
    (turns : List Handle) :
    Settling jobs here (performed ++ bodyTrace (t.play turns).1 w) (t.play turns).2
      (ws ++ (runOn (runBodySteps (t.play turns).1 : StateM W _) w).1)
      (runOn (runBodySteps (t.play turns).1 : StateM W _) w).2 := by
  induction turns generalizing performed t ws w with
  | nil =>
      show Settling jobs here (performed ++ []) t (ws ++ []) w
      rw [List.append_nil, List.append_nil]
      exact h
  | cons k turns ih =>
      have hplayed := ih (h.advance hapart k)
      rw [List.append_assoc, List.append_assoc] at hplayed
      rw [Tracker.play, runOn_runBodySteps_append, bodyTrace_append]
      exact hplayed

theorem join (hapart : Apart here jobs) (h : Settling jobs here performed t ws w) :
    Settling jobs here (performed ++ bodyTrace t.join.1 w) t.join.2
      (ws ++ (runOn (runBodySteps t.join.1 : StateM W _) w).1)
      (runOn (runBodySteps t.join.1 : StateM W _) w).2 := by
  obtain ⟨⟨turns, heffects, htasks⟩, hpending, hover⟩ :=
    Tracker.finishes_join h.work.sound h.work.awaited
  have hplayed := h.play hapart turns
  rw [← heffects] at hplayed
  have hawaited : t.join.2.Awaited := by
    refine ⟨fun k hk => ?_, fun k _ => .inl (hover k)⟩
    rw [hpending] at hk
    cases hk
  exact ⟨hplayed.here, hplayed.work.congr htasks hawaited, hplayed.leads, hplayed.written,
    hplayed.warnings⟩

end Settling

/-! ## The whole output -/

omit [SteadyFiles W] in
theorem OutputFile.path_advance (f : OutputFile) (w : W) :
    (runOn (f.advance : StateM W _) w).1.path = f.path := by
  rw [OutputFile.advance]
  split
  · split
    · rfl
    · rw [runOn_bind]
      split
      · rfl
      · rfl
  · rw [runOn_bind]
    split
    · rfl
    · rfl
  · rfl

namespace Output

/-- How it stands with an output and the files, when none of its two files is that of a body. -/
structure Settling (jobs : List BodyJob) (here : Location) (performed : List (BodyStep × W))
    (o : Output) (w : W) : Prop where
  scenario : ∀ j ∈ jobs, j.path.destination here ≠ o.scenario.path.destination here
  feeder : ∀ f, o.feeder = some f → ∀ j ∈ jobs,
    j.path.destination here ≠ f.path.destination here
  bodies : LoadScenario.Settling jobs here performed o.bodies o.warnings w

variable {jobs : List BodyJob} {here : Location}

theorem keeps_advanceScenario (performed : List (BodyStep × W)) :
    Keeps (Settling jobs here performed) advanceScenario := by
  intro o w h
  have hundisturbed := framing_undisturbed.advance o.scenario w
  rw [h.bodies.here] at hundisturbed
  refine ⟨fun j hj => ?_, h.feeder, h.bodies.undisturbed hundisturbed h.scenario⟩
  show _ ≠ (runOn (o.scenario.advance : StateM W _) w).1.path.destination here
  rw [OutputFile.path_advance]
  exact h.scenario j hj

theorem keeps_advanceFeeder (performed : List (BodyStep × W)) :
    Keeps (Settling jobs here performed) advanceFeeder := by
  intro o w h
  rw [advanceFeeder]
  split
  · exact h
  · next f hf =>
      have hundisturbed := framing_undisturbed.advance f w
      rw [h.bodies.here] at hundisturbed
      refine ⟨h.scenario, fun g hg j hj => ?_,
        h.bodies.undisturbed hundisturbed (h.feeder f hf)⟩
      rw [runOn_bind, runOn_pure] at hg
      obtain rfl := Option.some.inj hg
      rw [OutputFile.path_advance]
      exact h.feeder f hf j hj

theorem extends_settling (hapart : Apart here jobs) :
    Extends (W := W) (Settling jobs here) := fun k _ _ _ h =>
  ⟨h.scenario, h.feeder, h.bodies.advance hapart k⟩

/-- However the run is scheduled, it ends with all work on the bodies done. -/
theorem settles_run (hapart : Apart here jobs) {o : Output} {w : W}
    (h : o.Settling jobs here [] w) (schedule : Schedule) :
    (runOn (o.run schedule) w).1.Settling jobs here (o.trace schedule w)
        (runOn (o.run schedule) w).2 ∧
      (runOn (o.run schedule) w).1.bodies.pending = [] ∧
      ∀ k, (runOn (o.run schedule) w).1.bodies.isOver k := by
  refine ⟨(extends_settling hapart).run keeps_advanceScenario keeps_advanceFeeder
    (fun performed o w h => ⟨h.scenario, h.feeder, h.bodies.join hapart⟩) schedule o w h, ?_⟩
  have hplayed := (extends_settling hapart).play keeps_advanceScenario keeps_advanceFeeder
    schedule.givesUp (schedule.turns ++ fileTurns) [] o w h
  rw [Output.run, runOn_bind]
  generalize runOn (o.play schedule.givesUp (schedule.turns ++ fileTurns)) w = played at *
  have hfinishes := Tracker.finishes_join hplayed.bodies.work.sound hplayed.bodies.work.awaited
  exact ⟨hfinishes.pending, hfinishes.isOver⟩

end Output

end LoadScenario
