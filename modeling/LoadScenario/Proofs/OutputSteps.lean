import LoadScenario.Proofs.BodyFiles
import LoadScenario.Proofs.SimulationStages

/-!
# What a whole run of an output leaves true

The steps of the scenario and of the feeder come in some order, and the steps on the bodies come in
between in some other order, which only the schedule knows. What can be said without it is that each
step on a body is performed once. So a property of the files, and of the steps on bodies performed
so far, holds at the end of the run if it holds at the beginning and if each single step keeps it.
Nothing has to be known of the tasks for that, but that they wait in a sound way.
-/

namespace LoadScenario

open Work

variable {W : Type} [FileAccess (StateM W)]

/-- A property of the files that goes with the steps performed so far is kept by more of them. -/
theorem runBodySteps_keeps {I : List BodyStep → W → Prop} {es : List BodyStep}
    (hstep : ∀ e ∈ es, ∀ performed w, I performed w →
      I (performed ++ [e]) (runOn (e.run : StateM W _) w).2) {performed : List BodyStep} {w : W}
    (h : I performed w) : I (performed ++ es) (runOn (runBodySteps es : StateM W _) w).2 := by
  induction es generalizing performed w with
  | nil =>
      rw [List.append_nil]
      exact h
  | cons e es ih =>
      obtain ⟨hfirst, hrest⟩ := List.forall_mem_cons.mp hstep
      have hlater := ih hrest (hfirst performed w h)
      rw [List.append_assoc] at hlater
      exact hlater

theorem runBodySteps_keeps_files {I : W → Prop} {es : List BodyStep}
    (hstep : ∀ e ∈ es, ∀ w, I w → I (runOn (e.run : StateM W _) w).2) {w : W} (h : I w) :
    I (runOn (runBodySteps es : StateM W _) w).2 :=
  @runBodySteps_keeps W _ (fun _ => I) es (fun e he _ => hstep e he) [] w h

namespace Output

/-- A property that each step on the files of an output keeps. -/
structure StepsKeep (o : Output) (I : List BodyStep → W → Prop) : Prop where
  scenario : ∀ f : OutputFile, f.path = o.scenario.path → ∀ performed w, I performed w →
    I performed (runOn (f.advance : StateM W _) w).2
  feeder : ∀ g, o.feeder = some g → ∀ f : OutputFile, f.path = g.path → ∀ performed w,
    I performed w → I performed (runOn (f.advance : StateM W _) w).2
  body : ∀ e ∈ o.bodies.effects, ∀ performed w, I performed w →
    I (performed ++ [e]) (runOn (e.run : StateM W _) w).2

/-- How it stands with a run of an output: its files go to the same paths, and what has been
performed and what is left are the steps on the bodies that there were. -/
structure Midway (o : Output) (I : List BodyStep → W → Prop) (o' : Output) (w : W) : Prop where
  scenario : o'.scenario.path = o.scenario.path
  feeder : ∀ f, o'.feeder = some f → ∃ g, o.feeder = some g ∧ f.path = g.path
  sound : o'.bodies.Sound
  awaited : o'.bodies.Awaited
  performed : ∃ performed, (performed ++ o'.bodies.effects).Perm o.bodies.effects ∧ I performed w

variable {o : Output} {I : List BodyStep → W → Prop}

theorem keeps_midway_advanceScenario (hsteps : o.StepsKeep I) :
    Keeps (o.Midway I) advanceScenario := by
  intro o' w h
  obtain ⟨performed, hperm, hI⟩ := h.performed
  refine ⟨?_, h.feeder, h.sound, h.awaited, performed, hperm,
    hsteps.scenario o'.scenario h.scenario performed w hI⟩
  show (runOn (o'.scenario.advance : StateM W _) w).1.path = o.scenario.path
  rw [OutputFile.path_advance, h.scenario]

theorem keeps_midway_advanceFeeder (hsteps : o.StepsKeep I) :
    Keeps (o.Midway I) advanceFeeder := by
  intro o' w h
  obtain ⟨performed, hperm, hI⟩ := h.performed
  rw [advanceFeeder]
  split
  · exact h
  · next f hf =>
      obtain ⟨g, hg, hpath⟩ := h.feeder f hf
      refine ⟨h.scenario, fun f' hf' => ⟨g, hg, ?_⟩, h.sound, h.awaited, performed, hperm,
        hsteps.feeder g hg f hpath performed w hI⟩
      rw [runOn_bind, runOn_pure] at hf'
      obtain rfl := Option.some.inj hf'
      rw [OutputFile.path_advance, hpath]

theorem keeps_midway_advanceBody (hsteps : o.StepsKeep I) (k : Handle) :
    Keeps (o.Midway I) (advanceBody · k) := by
  intro o' w h
  obtain ⟨performed, hperm, hI⟩ := h.performed
  have hadvance := ((o'.bodies.perm_advance k).append_left performed).trans hperm
  refine ⟨h.scenario, h.feeder, h.sound.advance k, h.awaited.play [k],
    performed ++ (o'.bodies.advance k).1.toList, ?_, ?_⟩
  · rw [List.append_assoc]
    exact hadvance
  · refine runBodySteps_keeps (fun e he => hsteps.body e (hadvance.subset ?_)) hI
    exact List.mem_append_right _ (List.mem_append_left _ he)

omit [FileAccess (StateM W)] in
/-- The steps that are still performed in the end are among those that there were. -/
theorem Midway.mem_effects_of_join {o' : Output} {w : W} (h : o.Midway I o' w) {e : BodyStep}
    (he : e ∈ o'.bodies.join.1) : e ∈ o.bodies.effects := by
  obtain ⟨performed, hperm, -⟩ := h.performed
  have hleft := (Tracker.perm_join h.sound h.awaited).subset he
  exact hperm.subset (List.mem_append_right _ hleft)

/-- What every step keeps holds at the end, when each step on a body has been performed once. -/
theorem StepsKeep.run (hsteps : o.StepsKeep I) (hsound : o.bodies.Sound)
    (hawaited : o.bodies.Awaited) {w : W} (h : I [] w) (schedule : Schedule) :
    ∃ performed, performed.Perm o.bodies.effects ∧
      I performed (runOn (o.run schedule : StateM W _) w).2 := by
  have hmidway : o.Midway I o w :=
    ⟨rfl, fun f hf => ⟨f, hf, rfl⟩, hsound, hawaited, [], .refl _, h⟩
  have hplayed := Keeps.play (keeps_midway_advanceScenario hsteps)
    (keeps_midway_advanceFeeder hsteps) (keeps_midway_advanceBody hsteps)
    schedule.givesUp (schedule.turns ++ fileTurns) o w hmidway
  rw [Output.run, runOn_bind]
  generalize runOn (o.play schedule.givesUp (schedule.turns ++ fileTurns)) w = played at *
  obtain ⟨performed, hperm, hI⟩ := hplayed.performed
  have hjoin := Tracker.perm_join hplayed.sound hplayed.awaited
  have hjoined : (performed ++ played.1.bodies.join.1).Perm o.bodies.effects :=
    (hjoin.append_left performed).trans hperm
  refine ⟨_, hjoined, runBodySteps_keeps (fun e he => hsteps.body e (hjoined.subset ?_)) hI⟩
  exact List.mem_append_right _ he

end Output

/-! ## The output of a simulation -/

namespace Simulation

variable {schedule : Schedule} {layout : Layout} {template : Option Path} {simulation : String}
  {feeder : Feeder} {rs : List Request}

theorem files_readTemplate (template : Option Path) (fs : FileSystem) :
    (runOn (readTemplate template : StateM FileSystem _) fs).2 = fs := by
  cases template with
  | none => rfl
  | some path => rfl

theorem eq_of_readTemplate {fs fs' : FileSystem} {template : Option Path}
    {answer : Except Failure String} (h : runOn (readTemplate template) fs = (answer, fs')) :
    fs = fs' := by
  have hfiles := files_readTemplate template fs
  rw [h] at hfiles
  exact hfiles.symm

/-- Writing ends with the directory of the bodies, with the template or with a run of the output. -/
theorem writeAll_cases (schedule : Schedule) (layout : Layout) (template : Option Path)
    (simulation : String) (feeder : Feeder) (rs : List Request) (w : W) :
    let all : StateM W _ := writeAll schedule layout template simulation feeder rs
    (∃ fault w₁, runOn (makeDirectories (layout.bodiesOf simulation)) w = (.error fault, w₁) ∧
      (runOn all w).1.1 = .error (.directoryNotMade (layout.bodiesOf simulation) fault) ∧
      (runOn all w).2 = w₁) ∨
    ∃ w₁, runOn (makeDirectories (layout.bodiesOf simulation)) w = (.ok (), w₁) ∧
      ((∃ failure w₂, runOn (readTemplate template) w₁ = (.error failure, w₂) ∧
        (runOn all w).1.1 = .error failure ∧ (runOn all w).2 = w₂) ∨
      ∃ text w₂, runOn (readTemplate template) w₁ = (.ok text, w₂) ∧
        (runOn all w).2 =
          (runOn ((output layout text simulation feeder rs).run schedule) w₂).2) := by
  intro all
  rcases hdirectory : runOn (makeDirectories (layout.bodiesOf simulation)) w with ⟨made, w₁⟩
  cases made with
  | error fault =>
      refine .inl ⟨fault, w₁, rfl, ?_⟩
      simp only [all, writeAll, runOn_bind, hdirectory]
      exact ⟨rfl, rfl⟩
  | ok _ =>
      refine .inr ⟨w₁, rfl, ?_⟩
      rcases htemplate : runOn (readTemplate template) w₁ with ⟨read, w₂⟩
      cases read with
      | error failure =>
          refine .inl ⟨failure, w₂, rfl, ?_⟩
          simp only [all, writeAll, runOn_bind, hdirectory, htemplate]
          exact ⟨rfl, rfl⟩
      | ok text =>
          refine .inr ⟨text, w₂, rfl, ?_⟩
          simp only [all, writeAll, runOn_bind, hdirectory, htemplate]
          split
          · rfl
          · rfl

/-- Writing that succeeds has made the directory of the bodies, read the template and run the
output, and nothing of it has failed. -/
theorem run_of_writeAll_ok {w : W} {report : Report}
    (h : (runOn (writeAll schedule layout template simulation feeder rs) w).1.1 = .ok report) :
    ∃ w₁ text w₂, runOn (makeDirectories (layout.bodiesOf simulation)) w = (.ok (), w₁) ∧
      runOn (readTemplate template) w₁ = (.ok text, w₂) ∧
      report = ⟨simulation, layout.scenario simulation, feederPath? layout simulation feeder,
        rs.length⟩ ∧
      let written := runOn ((output layout text simulation feeder rs).run schedule) w₂
      written.1.failure? = none ∧
        runOn (writeAll schedule layout template simulation feeder rs) w =
          ((.ok report, written.1.warnings), written.2) := by
  rcases hdirectory : runOn (makeDirectories (layout.bodiesOf simulation)) w with ⟨made, w₁⟩
  cases made with
  | error fault =>
      simp only [writeAll, runOn_bind, hdirectory] at h
      cases h
  | ok _ =>
      rcases htemplate : runOn (readTemplate template) w₁ with ⟨read, w₂⟩
      cases read with
      | error failure =>
          simp only [writeAll, runOn_bind, hdirectory, htemplate] at h
          cases h
      | ok text =>
          refine ⟨w₁, text, w₂, rfl, htemplate, ?_⟩
          rcases hwritten : runOn ((output layout text simulation feeder rs).run schedule) w₂
            with ⟨o, w₃⟩
          simp only [writeAll, runOn_bind, hdirectory, htemplate, hwritten] at h ⊢
          cases hfailure : o.failure? with
          | some failure =>
              simp only [hfailure] at h
              cases h
          | none =>
              simp only [hfailure] at h ⊢
              obtain rfl := Except.ok.inj h
              exact ⟨rfl, trivial, rfl⟩

theorem runOn_write_eq {s : Simulation} {c : Collection}
    (hstage : s.stage = .requestsBuilt c feeder rs) (schedule : Schedule) (layout : Layout)
    (template : Option Path) (w : W) :
    let all : StateM W _ := writeAll schedule layout template (s.nameFor c) feeder rs
    (runOn (s.write schedule layout template) w).1.1 = (runOn all w).1.1 ∧
      (runOn (s.write schedule layout template) w).2 = (runOn all w).2 := by
  intro all
  rcases hall : runOn all w with ⟨⟨answer, ws⟩, w'⟩
  cases answer with
  | error failure =>
      rw [runOn_write_error hstage hall]
      exact ⟨rfl, rfl⟩
  | ok report =>
      rw [runOn_write_ok hstage hall]
      exact ⟨rfl, rfl⟩

/-- The steps that write the bodies are those of the requests whose bodies have content. -/
theorem exists_body_of_write {template : String} {path : Path} {content : String}
    (h : .write path content ∈ (output layout template simulation feeder rs).bodies.effects) :
    ∃ r ∈ rs, ∃ b, r.body = some b ∧ b.contentToWrite? = some content ∧
      path = b.path layout.bodies simulation := by
  have hsteps := (underway_bodyJobs (bodyJobs layout.bodies simulation rs)).steps
  rw [← bodyWork_eq, List.nil_append] at hsteps
  obtain ⟨j, hj, he⟩ := List.mem_flatMap.mp (hsteps.subset h)
  obtain ⟨r, hr, hjob⟩ := List.mem_filterMap.mp hj
  obtain ⟨b, hb, rfl⟩ := Option.map_eq_some_iff.mp hjob
  rcases List.mem_append.mp he with hwrite | hcheck
  · obtain ⟨content', hcontent, heq⟩ := Option.map_eq_some_iff.mp (Option.mem_toList.mp hwrite)
    cases heq
    exact ⟨r, hr, b, hb, hcontent, rfl⟩
  · cases List.mem_singleton.mp hcheck

theorem sound_output (layout : Layout) (template simulation : String) (feeder : Feeder)
    (rs : List Request) : (output layout template simulation feeder rs).bodies.Sound ∧
      (output layout template simulation feeder rs).bodies.Awaited := by
  have hunderway := underway_bodyJobs (bodyJobs layout.bodies simulation rs)
  rw [← bodyWork_eq] at hunderway
  exact ⟨hunderway.sound, hunderway.awaited⟩

end Simulation

end LoadScenario
