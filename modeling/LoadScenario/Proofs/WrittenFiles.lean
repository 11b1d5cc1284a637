import LoadScenario.Proofs.OutputSteps
import LoadScenario.Proofs.SteadyFiles

/-!
# What a run that succeeds has written

The scenario and the feeder are written in steps that come between steps on bodies, and each of them
can be given up when the other one fails. A run that ends without a failure has given up nothing, so
both files have had the two turns that they need at least, and both are written (`Output.Within` is
the measure). What has been written stays, because no other step of the run goes to the same file
(`Output.Faithful` is the invariant).

Of the files it has to be known that a write that succeeds leaves its text where its path leads.
-/

namespace LoadScenario

open Work LinkFree

section

variable {W : Type} [FileAccess (StateM W)]

namespace OutputFile

/-! ## One step of a file -/

/-- What a step of a file can come to. -/
inductive Advances (f : OutputFile) (w : W) : OutputFile → W → Prop where
  | bare (hprogress : f.progress = .started) (hdirectory : f.directory? = none) :
    Advances f w { f with progress := .directoryMade } w
  | made {dir : Path} {w' : W} (hprogress : f.progress = .started)
    (hdirectory : f.directory? = some dir) (hrun : runOn (makeDirectories dir) w = (.ok (), w')) :
    Advances f w { f with progress := .directoryMade } w'
  | unmade {dir : Path} {fault : Fault} {w' : W} (hprogress : f.progress = .started)
    (hdirectory : f.directory? = some dir)
    (hrun : runOn (makeDirectories dir) w = (.error fault, w')) :
    Advances f w { f with progress := .failed (.directoryNotMade dir fault) } w'
  | written {w' : W} (hprogress : f.progress = .directoryMade)
    (hrun : runOn (FileAccess.write f.path f.content) w = (.ok (), w')) :
    Advances f w { f with progress := .written } w'
  | unwritten {fault : Fault} {w' : W} (hprogress : f.progress = .directoryMade)
    (hrun : runOn (FileAccess.write f.path f.content) w = (.error fault, w')) :
    Advances f w { f with progress := .failed (.fileNotWritten f.path fault) } w'
  | ended (hprogress : f.progress = .written ∨ ∃ failure, f.progress = .failed failure) :
    Advances f w f w

theorem advances (f : OutputFile) (w : W) :
    Advances f w (runOn (f.advance : StateM W _) w).1 (runOn (f.advance : StateM W _) w).2 := by
  obtain ⟨path, content, progress⟩ := f
  cases progress with
  | started =>
      rw [advance]
      cases hdirectory : directory? ⟨path, content, .started⟩ with
      | none => exact .bare rfl hdirectory
      | some dir =>
          rcases hrun : runOn (makeDirectories dir : StateM W _) w with ⟨answer, w'⟩
          simp only [runOn_bind, hrun]
          cases answer with
          | ok _ => exact .made rfl hdirectory hrun
          | error fault => exact .unmade rfl hdirectory hrun
  | directoryMade =>
      rcases hrun : runOn (FileAccess.write path content : StateM W _) w with ⟨answer, w'⟩
      simp only [advance, runOn_bind, hrun]
      cases answer with
      | ok _ => exact .written rfl hrun
      | error fault => exact .unwritten rfl hrun
  | written => exact .ended (.inl rfl)
  | failed failure => exact .ended (.inr ⟨failure, rfl⟩)

/-- The number of steps that a file can still take. -/
def stepsLeft (f : OutputFile) : Nat :=
  match f.progress with
  | .started => 2
  | .directoryMade => 1
  | .written | .failed _ => 0

theorem stepsLeft_le (f : OutputFile) : f.stepsLeft ≤ 2 := by
  rw [stepsLeft]
  split <;> simp

theorem stepsLeft_advance (f : OutputFile) (w : W) :
    (runOn (f.advance : StateM W _) w).1.stepsLeft ≤ f.stepsLeft - 1 := by
  have hstep := f.advances w
  generalize runOn (f.advance : StateM W _) w = advanced at *
  obtain ⟨f', w'⟩ := advanced
  cases hstep with
  | bare h | made h | unmade h | written h | unwritten h => simp [stepsLeft, h]
  | ended h =>
      change f'.progress = _ ∨ (∃ failure, f'.progress = .failed failure) at h
      rcases h with h | ⟨_, h⟩ <;> simp [stepsLeft, h]

theorem advance_of_failed {f : OutputFile} (h : f.failure?.isSome) (w : W) :
    (runOn (f.advance : StateM W _) w).1 = f := by
  have hstep := f.advances w
  generalize runOn (f.advance : StateM W _) w = advanced at *
  obtain ⟨f', w'⟩ := advanced
  cases hstep with
  | bare hprogress | made hprogress | unmade hprogress | written hprogress | unwritten hprogress =>
      simp [failure?, hprogress] at h
  | ended => rfl

theorem written_of_stepsLeft {f : OutputFile} (hsteps : f.stepsLeft = 0)
    (hfailure : f.failure? = none) : f.progress = .written := by
  cases hprogress : f.progress with
  | written => rfl
  | started | directoryMade => simp [stepsLeft, hprogress] at hsteps
  | failed => simp [failure?, hprogress] at hfailure

end OutputFile

/-! ## The turns of both files -/

namespace Output

/-- The output has failed, or its files can take so many steps at most. -/
def Within (scenario feeder : Nat) (o : Output) : Prop :=
  o.failure?.isSome ∨ o.scenario.stepsLeft ≤ scenario ∧ ∀ f ∈ o.feeder, f.stepsLeft ≤ feeder

theorem isSome_failure?_iff {o : Output} :
    o.failure?.isSome ↔ o.scenario.failure?.isSome ∨ ∃ f ∈ o.feeder, f.failure?.isSome := by
  rw [failure?, Option.isSome_or, Bool.or_eq_true]
  cases o.feeder <;> simp

theorem failure?_advanceScenario {o : Output} (h : o.failure?.isSome) (w : W) :
    (runOn (o.advanceScenario : StateM W _) w).1.failure?.isSome := by
  rw [isSome_failure?_iff] at h ⊢
  refine h.imp_left fun hscenario => ?_
  show (runOn (o.scenario.advance : StateM W _) w).1.failure?.isSome
  rw [OutputFile.advance_of_failed hscenario]
  exact hscenario

theorem failure?_advanceFeeder {o : Output} (h : o.failure?.isSome) (w : W) :
    (runOn (o.advanceFeeder : StateM W _) w).1.failure?.isSome := by
  rw [advanceFeeder]
  split
  · exact h
  · next f hf =>
      rw [isSome_failure?_iff] at h ⊢
      refine h.imp_right ?_
      rintro ⟨f', hf', hfailure⟩
      obtain rfl := Option.some.inj (hf.symm.trans hf')
      refine ⟨_, rfl, ?_⟩
      show (runOn (f.advance : StateM W _) w).1.failure?.isSome
      rw [OutputFile.advance_of_failed hfailure]
      exact hfailure

theorem within_start (o : Output) : o.Within 2 2 :=
  .inr ⟨o.scenario.stepsLeft_le, fun f _ => f.stepsLeft_le⟩

variable {n k : Nat} {o : Output}

theorem Within.advance_scenario (h : o.Within (n + 1) k) (givesUp : Bool) (w : W) :
    (runOn (o.advance givesUp .scenario : StateM W _) w).1.Within n k := by
  rw [Output.advance]
  cases hfailed : o.failure?.isSome with
  | true =>
      split
      · exact .inl hfailed
      · exact .inl (failure?_advanceScenario hfailed w)
  | false =>
      obtain hsome | ⟨hscenario, hfeeder⟩ := h
      · rw [hfailed] at hsome
        cases hsome
      · rw [isGivenUp, hfailed, Bool.and_false, if_neg Bool.false_ne_true]
        have hstep := o.scenario.stepsLeft_advance w
        exact .inr ⟨Nat.le_trans hstep (by omega), hfeeder⟩

theorem Within.advance_feeder (h : o.Within n (k + 1)) (givesUp : Bool) (w : W) :
    (runOn (o.advance givesUp .feeder : StateM W _) w).1.Within n k := by
  rw [Output.advance]
  cases hfailed : o.failure?.isSome with
  | true =>
      split
      · exact .inl hfailed
      · exact .inl (failure?_advanceFeeder hfailed w)
  | false =>
      obtain hsome | ⟨hscenario, hfeeder⟩ := h
      · rw [hfailed] at hsome
        cases hsome
      · rw [isGivenUp, hfailed, Bool.and_false, if_neg Bool.false_ne_true, advanceFeeder]
        split
        · next hnone => exact .inr ⟨hscenario, by simp [runOn_pure, hnone]⟩
        · next f hf =>
            refine .inr ⟨hscenario, ?_⟩
            intro f' hf'
            obtain rfl := Option.some.inj hf'
            have hstep := f.stepsLeft_advance w
            have hleft := hfeeder f hf
            exact Nat.le_trans hstep (by omega)

theorem play_append (givesUp : Bool) (turns later : List Turn) (o : Output) (w : W) :
    runOn (o.play givesUp (turns ++ later) : StateM W _) w =
      let played := runOn (o.play givesUp turns : StateM W _) w
      runOn (played.1.play givesUp later) played.2 := by
  induction turns generalizing o w with
  | nil => rfl
  | cons turn turns ih =>
      rw [List.cons_append, play, runOn_bind, ih]
      rfl

/-- Whatever the schedule does, the turns behind it finish both files. -/
theorem within_play_fileTurns (givesUp : Bool) (turns : List Turn) (o : Output) (w : W) :
    (runOn (o.play givesUp (turns ++ fileTurns) : StateM W _) w).1.Within 0 0 := by
  rw [play_append]
  generalize runOn (o.play givesUp turns : StateM W _) w = played
  have hscenario := (within_start played.1).advance_scenario givesUp played.2
  simp only [fileTurns, play, runOn_bind, runOn_pure]
  exact ((hscenario.advance_scenario givesUp _).advance_feeder givesUp _).advance_feeder givesUp _

theorem Within.written (h : o.Within 0 0) (hfailure : o.failure? = none) :
    o.scenario.progress = .written ∧ ∀ f, o.feeder = some f → f.progress = .written := by
  obtain hsome | ⟨hscenario, hfeeder⟩ := h
  · rw [hfailure] at hsome
    cases hsome
  · rw [failure?, Option.or_eq_none_iff, Option.bind_eq_none_iff] at hfailure
    refine ⟨OutputFile.written_of_stepsLeft (Nat.le_zero.mp hscenario) hfailure.1, ?_⟩
    intro f hf
    exact OutputFile.written_of_stepsLeft (Nat.le_zero.mp (hfeeder f hf)) (hfailure.2 f hf)

end Output

end

/-! ## The files stay -/

section

variable {W : Type} [FileAccess (StateM W)] [StoresText W]

/-- A file of a run is the one that was meant, and once it is written it is there. -/
structure OutputFile.Faithful (meant f : OutputFile) (w : W) : Prop where
  path : f.path = meant.path
  content : f.content = meant.content
  written : f.progress = .written →
    toFileView.file? w (meant.path.destination (toFileView.here w)) = some (.text meant.content)

namespace OutputFile.Faithful

variable {meant f : OutputFile} {changed : Location → Prop} {w w' : W}

theorem spares (h : meant.Faithful f w) (hspares : toFileView.Spares changed w w')
    (hfree : ¬ changed (meant.path.destination (toFileView.here w))) : meant.Faithful f w' := by
  refine ⟨h.path, h.content, fun hprogress => ?_⟩
  rw [hspares.here, hspares.files _ hfree]
  exact h.written hprogress

theorem advance (h : meant.Faithful f w) :
    meant.Faithful (runOn (f.advance : StateM W _) w).1 (runOn (f.advance : StateM W _) w).2 := by
  have hhere := (framing_spares.advance f w).here
  have hstep := f.advances w
  generalize runOn (f.advance : StateM W _) w = advanced at *
  obtain ⟨f', w'⟩ := advanced
  cases hstep with
  | bare | made | unmade | unwritten => exact ⟨h.path, h.content, nofun⟩
  | written _ hrun =>
      refine ⟨h.path, h.content, fun _ => ?_⟩
      have hstored := StoresText.file?_write f.path f.content w
      rw [hrun, h.path, h.content] at hstored
      rw [hhere]
      exact hstored rfl
  | ended => exact h

end OutputFile.Faithful

namespace Output

/-- The steps of an output go to different files. -/
structure Distinct (o : Output) (here : Location) : Prop where
  feeder : ∀ g, o.feeder = some g → g.path.destination here ≠ o.scenario.path.destination here
  scenarioBody : ∀ path content, .write path content ∈ o.bodies.effects →
    path.destination here ≠ o.scenario.path.destination here
  feederBody : ∀ path content, .write path content ∈ o.bodies.effects →
    ∀ g, o.feeder = some g → path.destination here ≠ g.path.destination here

/-- How it stands with both files of an output that was meant. -/
structure Faithful (meant : Output) (here : Location) (o : Output) (w : W) : Prop where
  midway : meant.Midway (fun _ w' => toFileView.here w' = here) o w
  scenario : meant.scenario.Faithful o.scenario w
  feeder : ∀ g, meant.feeder = some g → ∃ f, o.feeder = some f ∧ g.Faithful f w

variable {meant : Output} {here : Location}

theorem stepsKeep_here (meant : Output) (here : Location) :
    meant.StepsKeep fun _ (w : W) => toFileView.here w = here := by
  refine ⟨fun f _ _ w h => (framing_spares.advance f w).here.trans h,
    fun _ _ f _ _ w h => (framing_spares.advance f w).here.trans h, fun e _ _ w h => ?_⟩
  cases e with
  | write path content => exact (spares_write path content w).here.trans h
  | check request path => exact (spares_acceptsWrites path w).here.trans h

theorem Faithful.here_eq {o : Output} {w : W} (h : meant.Faithful here o w) :
    toFileView.here w = here := by
  obtain ⟨_, -, hhere⟩ := h.midway.performed
  exact hhere

theorem keeps_faithful_advanceScenario (hdistinct : meant.Distinct here) :
    Keeps (W := W) (Faithful meant here) advanceScenario := by
  intro o w h
  have hspares := framing_spares.advance o.scenario w
  rw [h.scenario.path, h.here_eq] at hspares
  refine ⟨keeps_midway_advanceScenario (stepsKeep_here meant here) o w h.midway,
    h.scenario.advance, fun g hg => ?_⟩
  obtain ⟨f, hf, hfaithful⟩ := h.feeder g hg
  refine ⟨f, hf, hfaithful.spares hspares ?_⟩
  rw [h.here_eq]
  exact hdistinct.feeder g hg

theorem keeps_faithful_advanceFeeder (hdistinct : meant.Distinct here) :
    Keeps (W := W) (Faithful meant here) advanceFeeder := by
  intro o w h
  have hmidway := keeps_midway_advanceFeeder (stepsKeep_here meant here) o w h.midway
  rw [advanceFeeder] at hmidway ⊢
  split at hmidway
  · exact h
  · next f hf =>
      obtain ⟨g, hg, hpath⟩ := h.midway.feeder f hf
      obtain ⟨f', hf', hfaithful⟩ := h.feeder g hg
      obtain rfl := Option.some.inj (hf.symm.trans hf')
      have hspares := framing_spares.advance f w
      rw [hpath, h.here_eq] at hspares
      refine ⟨hmidway, h.scenario.spares hspares ?_, fun g' hg' => ⟨_, rfl, ?_⟩⟩
      · rw [h.here_eq]
        exact (hdistinct.feeder g hg).symm
      · obtain rfl := Option.some.inj (hg.symm.trans hg')
        exact hfaithful.advance

/-- The files that the steps on bodies write. -/
def WritesBody (o : Output) (here l : Location) : Prop :=
  ∃ path content, .write path content ∈ o.bodies.effects ∧ l = path.destination here

theorem spares_bodySteps {es : List BodyStep} (hes : ∀ e ∈ es, e ∈ meant.bodies.effects) {w : W}
    (hhere : toFileView.here w = here) :
    toFileView.Spares (meant.WritesBody here) w (runOn (runBodySteps es : StateM W _) w).2 := by
  refine runBodySteps_keeps_files (fun e he w' h => ?_) (.refl _ w)
  cases e with
  | check request path => exact h.trans (spares_acceptsWrites path w').weaken
  | write path content =>
      refine h.trans ((spares_write path content w').mono ?_)
      intro l hl
      exact ⟨path, content, hes _ he, by rw [hl, h.here, hhere]⟩

theorem Faithful.bodySteps (hdistinct : meant.Distinct here) {o : Output} {w : W}
    (h : meant.Faithful here o w) {es : List BodyStep}
    (hes : ∀ e ∈ es, e ∈ meant.bodies.effects) :
    meant.scenario.Faithful o.scenario (runOn (runBodySteps es : StateM W _) w).2 ∧
      ∀ g, meant.feeder = some g →
        ∃ f, o.feeder = some f ∧ g.Faithful f (runOn (runBodySteps es : StateM W _) w).2 := by
  have hspares := spares_bodySteps hes h.here_eq
  refine ⟨h.scenario.spares hspares ?_, fun g hg => ?_⟩
  · rintro ⟨path, content, hwrite, hpath⟩
    rw [h.here_eq] at hpath
    exact hdistinct.scenarioBody path content hwrite hpath.symm
  · obtain ⟨f, hf, hfaithful⟩ := h.feeder g hg
    refine ⟨f, hf, hfaithful.spares hspares ?_⟩
    rintro ⟨path, content, hwrite, hpath⟩
    rw [h.here_eq] at hpath
    exact hdistinct.feederBody path content hwrite g hg hpath.symm

theorem keeps_faithful_advanceBody (hdistinct : meant.Distinct here) (k : Handle) :
    Keeps (W := W) (Faithful meant here) (advanceBody · k) := by
  intro o w h
  have hmidway := keeps_midway_advanceBody (stepsKeep_here meant here) k o w h.midway
  obtain ⟨performed, hperm, -⟩ := h.midway.performed
  have hes : ∀ e ∈ (o.bodies.advance k).1.toList, e ∈ meant.bodies.effects := by
    intro e he
    exact hperm.subset (List.mem_append_right _
      ((o.bodies.perm_advance k).subset (List.mem_append_left _ he)))
  obtain ⟨hscenario, hfeeder⟩ := h.bodySteps hdistinct hes
  exact ⟨hmidway, hscenario, hfeeder⟩

/-- A run that ends without a failure has written the scenario and the feeder, and both are still
there. -/
theorem files_run (hdistinct : meant.Distinct here) (hsound : meant.bodies.Sound)
    (hawaited : meant.bodies.Awaited) {path : Path} {content : String}
    (hscenario : meant.scenario = .of path content)
    (hfeeder : ∀ g, meant.feeder = some g → g.progress = .started) (schedule : Schedule) {w : W}
    (hhere : toFileView.here w = here)
    (hok : (runOn (meant.run schedule : StateM W _) w).1.failure? = none) :
    let after := (runOn (meant.run schedule : StateM W _) w).2
    toFileView.file? after (path.destination here) = some (.text content) ∧
      ∀ path content, meant.feeder = some (.of path content) →
        toFileView.file? after (path.destination here) = some (.text content) := by
  intro after
  have hbegin : meant.Faithful here meant w := by
    refine ⟨⟨rfl, fun f hf => ⟨f, hf, rfl⟩, hsound, hawaited, [], .refl _, hhere⟩,
      ⟨rfl, rfl, fun h => ?_⟩, fun g hg => ⟨g, hg, rfl, rfl, fun h => ?_⟩⟩
    · rw [hscenario, OutputFile.of] at h
      cases h
    · rw [hfeeder g hg] at h
      cases h
  have hplayed := Keeps.play (keeps_faithful_advanceScenario hdistinct)
    (keeps_faithful_advanceFeeder hdistinct) (keeps_faithful_advanceBody hdistinct)
    schedule.givesUp (schedule.turns ++ fileTurns) meant w hbegin
  have hwithin := within_play_fileTurns schedule.givesUp schedule.turns meant w
  have hafter : after = (runOn (meant.run schedule : StateM W _) w).2 := rfl
  rw [Output.run, runOn_bind] at hok hafter
  generalize runOn (meant.play schedule.givesUp (schedule.turns ++ fileTurns)) w = played at *
  obtain ⟨hscenarioWritten, hfeederWritten⟩ := hwithin.written hok
  have hes : ∀ e ∈ played.1.bodies.join.1, e ∈ meant.bodies.effects :=
    fun e he => hplayed.midway.mem_effects_of_join he
  have hjoined := hplayed.bodySteps hdistinct hes
  have hspares := (spares_bodySteps hes hplayed.here_eq).here.trans hplayed.here_eq
  rw [hafter]
  refine ⟨?_, fun path' content' hg => ?_⟩
  · have hstays := hjoined.1.written hscenarioWritten
    rw [hspares, hscenario, OutputFile.of] at hstays
    exact hstays
  · obtain ⟨f, hf, hfaithful⟩ := hjoined.2 _ hg
    have hstays := hfaithful.written (hfeederWritten f hf)
    rw [hspares, OutputFile.of] at hstays
    exact hstays

end Output

end

end LoadScenario
