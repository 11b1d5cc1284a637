import LoadScenario.Simulation.Output

/-!
# Running an output step by step

Whatever the schedule says, the run of an output is made of three kinds of steps: one of the
scenario, one of the feeder and the work on bodies. A property that each of them keeps is kept by
the run, so nothing that is proved about outputs has to look at schedules again. The property may
also speak of the steps on bodies that have been performed so far, each with the files that it
found: that is the trace of the run. The files are a type with any operations, which is as much as
is known of them here.

The first use is `IsOutput`: when an output cannot be written, the cause lies with a directory or a
file of its own.
-/

namespace LoadScenario

section

variable {W α β : Type}

/-- What comes out if something is done on files in some state. -/
def runOn (x : StateM W α) (w : W) : α × W := x w

theorem runOn_bind (x : StateM W α) (f : α → StateM W β) (w : W) :
    runOn (x >>= f) w = runOn (f (runOn x w).1) (runOn x w).2 := rfl

theorem runOn_pure (a : α) (w : W) : runOn (pure a) w = (a, w) := rfl

end

variable {W : Type} [FileAccess (StateM W)]

/-- The steps that are performed, each with the files that it finds. -/
def bodyTrace : List BodyStep → W → List (BodyStep × W)
  | [], _ => []
  | e :: es, w => (e, w) :: bodyTrace es (runOn (e.run : StateM W _) w).2

theorem map_bodyTrace (es : List BodyStep) (w : W) : (bodyTrace es w).map Prod.fst = es := by
  induction es generalizing w with
  | nil => rfl
  | cons e es ih => rw [bodyTrace, List.map_cons, ih]

theorem bodyTrace_append (es es' : List BodyStep) (w : W) : bodyTrace (es ++ es') w =
    bodyTrace es w ++ bodyTrace es' (runOn (runBodySteps es : StateM W _) w).2 := by
  induction es generalizing w with
  | nil => rfl
  | cons e es ih => exact congrArg (_ :: ·) (ih _)

theorem runOn_runBodySteps_append (es es' : List BodyStep) (w : W) :
    runOn (runBodySteps (es ++ es') : StateM W _) w =
      ((runOn (runBodySteps es : StateM W _) w).1 ++
          (runOn (runBodySteps es' : StateM W _) (runOn (runBodySteps es : StateM W _) w).2).1,
        (runOn (runBodySteps es' : StateM W _) (runOn (runBodySteps es : StateM W _) w).2).2) := by
  induction es generalizing w with
  | nil => rfl
  | cons e es ih =>
      simp only [List.cons_append, runBodySteps, runOn_bind, runOn_pure, ih, List.append_assoc]

namespace Output

/-- The steps on bodies that a turn performs. -/
def turnTrace (o : Output) (w : W) : Turn → List (BodyStep × W)
  | .body h => bodyTrace (o.bodies.advance h).1.toList w
  | .scenario | .feeder => []

/-- The steps on bodies that several turns perform. -/
def playTrace (givesUp : Bool) (o : Output) (w : W) : List Turn → List (BodyStep × W)
  | [] => []
  | turn :: turns =>
    let next := runOn (o.advance givesUp turn : StateM W _) w
    o.turnTrace w turn ++ playTrace givesUp next.1 next.2 turns

/-- The steps on bodies that a run performs. -/
def trace (schedule : Schedule) (o : Output) (w : W) : List (BodyStep × W) :=
  let turns := schedule.turns ++ fileTurns
  let played := runOn (o.play schedule.givesUp turns : StateM W _) w
  o.playTrace schedule.givesUp w turns ++ bodyTrace played.1.bodies.join.1 played.2

/-- A step keeps a property of the output and the files. -/
def Keeps (I : Output → W → Prop) (step : Output → StateM W Output) : Prop :=
  ∀ o w, I o w → I (runOn (step o) w).1 (runOn (step o) w).2

/-- A step on a body takes a property of the steps performed so far, the output and the files to
that of one more step. -/
def Extends (I : List (BodyStep × W) → Output → W → Prop) : Prop :=
  ∀ (k : Work.Handle) (performed : List (BodyStep × W)) (o : Output) (w : W), I performed o w →
    I (performed ++ bodyTrace (o.bodies.advance k).1.toList w)
      (runOn (o.advanceBody k : StateM W _) w).1 (runOn (o.advanceBody k : StateM W _) w).2

section

variable {I : List (BodyStep × W) → Output → W → Prop}

theorem Extends.advance (hbody : Extends I)
    (hscenario : ∀ performed, Keeps (I performed) advanceScenario)
    (hfeeder : ∀ performed, Keeps (I performed) advanceFeeder) (givesUp : Bool) (turn : Turn)
    (performed : List (BodyStep × W)) (o : Output) (w : W) (h : I performed o w) :
    I (performed ++ o.turnTrace w turn) (runOn (o.advance givesUp turn : StateM W _) w).1
      (runOn (o.advance givesUp turn : StateM W _) w).2 := by
  cases turn with
  | scenario =>
      rw [turnTrace, List.append_nil, Output.advance]
      split
      · exact h
      · exact hscenario performed o w h
  | feeder =>
      rw [turnTrace, List.append_nil, Output.advance]
      split
      · exact h
      · exact hfeeder performed o w h
  | body handle => exact hbody handle performed o w h

/-- What every step keeps is kept by several turns, and goes along with their trace. -/
theorem Extends.play (hbody : Extends I)
    (hscenario : ∀ performed, Keeps (I performed) advanceScenario)
    (hfeeder : ∀ performed, Keeps (I performed) advanceFeeder) (givesUp : Bool)
    (turns : List Turn) (performed : List (BodyStep × W)) (o : Output) (w : W)
    (h : I performed o w) :
    I (performed ++ o.playTrace givesUp w turns) (runOn (o.play givesUp turns : StateM W _) w).1
      (runOn (o.play givesUp turns : StateM W _) w).2 := by
  induction turns generalizing performed o w with
  | nil =>
      rw [playTrace, List.append_nil]
      exact h
  | cons turn turns ih =>
      rw [playTrace, ← List.append_assoc, Output.play, runOn_bind]
      exact ih _ _ _ (hbody.advance hscenario hfeeder givesUp turn performed o w h)

/-- What every step keeps goes along with the trace of the run, whatever the schedule. -/
theorem Extends.run (hbody : Extends I)
    (hscenario : ∀ performed, Keeps (I performed) advanceScenario)
    (hfeeder : ∀ performed, Keeps (I performed) advanceFeeder)
    (hjoin : ∀ (performed : List (BodyStep × W)) (o : Output) (w : W), I performed o w →
      I (performed ++ bodyTrace o.bodies.join.1 w) (runOn (o.joinBodies : StateM W _) w).1
        (runOn (o.joinBodies : StateM W _) w).2) (schedule : Schedule) (o : Output) (w : W)
    (h : I [] o w) :
    I (o.trace schedule w) (runOn (o.run schedule : StateM W _) w).1
      (runOn (o.run schedule : StateM W _) w).2 := by
  rw [trace, Output.run, runOn_bind]
  exact hjoin _ _ _ (hbody.play hscenario hfeeder schedule.givesUp _ [] o w h)

end

variable {I : Output → W → Prop}

theorem Keeps.play (hscenario : Keeps I advanceScenario) (hfeeder : Keeps I advanceFeeder)
    (hbody : ∀ k, Keeps I (advanceBody · k)) (givesUp : Bool) (turns : List Turn) :
    Keeps I (play givesUp · turns) :=
  Extends.play (I := fun _ => I) (fun k _ => hbody k) (fun _ => hscenario) (fun _ => hfeeder)
    givesUp turns []

/-- What every step keeps is kept by the run, whatever the schedule. -/
theorem Keeps.run (hscenario : Keeps I advanceScenario) (hfeeder : Keeps I advanceFeeder)
    (hbody : ∀ h, Keeps I (advanceBody · h)) (hjoin : Keeps I joinBodies) (schedule : Schedule) :
    Keeps I (run schedule) := by
  intro o w h
  rw [Output.run, runOn_bind]
  exact hjoin _ _ (Keeps.play hscenario hfeeder hbody schedule.givesUp _ o w h)

/-- For a property that does not depend on the tasks it makes no difference which steps on bodies
are performed at a time. -/
theorem Keeps.run_of_bodySteps (hscenario : Keeps I advanceScenario)
    (hfeeder : Keeps I advanceFeeder)
    (hsteps : ∀ (es : List BodyStep) (bodies : Work.Tracker BodyStep) (o : Output) (w : W), I o w →
      let performed := runOn (runBodySteps es : StateM W _) w
      I { o with bodies, warnings := o.warnings ++ performed.1 } performed.2)
    (schedule : Schedule) : Keeps I (Output.run schedule) :=
  Keeps.run hscenario hfeeder
    (fun k o w h => hsteps (o.bodies.advance k).1.toList (o.bodies.advance k).2 o w h)
    (fun o w h => hsteps o.bodies.join.1 o.bodies.join.2 o w h) schedule

end Output

/-! ## Why an output cannot be written -/

/-- Whether a failure is one of writing a directory or a file. -/
def Failure.IsOutput : Failure → Prop
  | directoryNotMade _ _ | fileNotWritten _ _ => True
  | _ => False

theorem OutputFile.isOutput_advance {f : OutputFile} (h : ∀ failure, f.failure? = some failure →
    failure.IsOutput) (w : W) :
    ∀ failure, (runOn f.advance w).1.failure? = some failure → Failure.IsOutput failure := by
  intro failure hfailure
  obtain ⟨path, content, progress⟩ := f
  cases progress with
  | started =>
      simp only [OutputFile.advance] at hfailure
      split at hfailure
      · cases hfailure
      · rw [runOn_bind] at hfailure
        split at hfailure
        · cases hfailure
        · obtain rfl := Option.some.inj hfailure
          trivial
  | directoryMade =>
      simp only [OutputFile.advance, runOn_bind] at hfailure
      split at hfailure
      · cases hfailure
      · obtain rfl := Option.some.inj hfailure
        trivial
  | written => exact h failure hfailure
  | failed cause => exact h failure hfailure

namespace Output

/-- Every failure so far is one of writing. -/
def FailsToWrite (o : Output) : Prop :=
  (∀ failure, o.scenario.failure? = some failure → Failure.IsOutput failure) ∧
  ∀ f, o.feeder = some f → ∀ failure, f.failure? = some failure → Failure.IsOutput failure

theorem FailsToWrite.run {o : Output} (h : o.FailsToWrite) (schedule : Schedule) (w : W) :
    (runOn (o.run schedule) w).1.FailsToWrite := by
  refine Keeps.run (I := fun o _ => o.FailsToWrite) ?_ ?_ ?_ ?_ schedule o w h
  · intro o w h
    exact ⟨OutputFile.isOutput_advance h.1 w, h.2⟩
  · intro o w h
    refine ⟨?_, ?_⟩
    · rw [advanceFeeder]
      split
      · exact h.1
      · exact h.1
    · intro f hf
      rw [advanceFeeder] at hf
      split at hf
      · next hnone =>
          rw [runOn_pure] at hf
          exact h.2 f hf
      · next g hg =>
          rw [runOn_bind, runOn_pure] at hf
          obtain rfl := Option.some.inj hf
          exact OutputFile.isOutput_advance (h.2 g hg) w
  · exact fun _ o w h => h
  · exact fun o w h => h

theorem FailsToWrite.isOutput {o : Output} (h : o.FailsToWrite) {failure : Failure}
    (hfailure : o.failure? = some failure) : failure.IsOutput := by
  rw [failure?, Option.or_eq_some_iff] at hfailure
  rcases hfailure with hscenario | ⟨-, hfeeder⟩
  · exact h.1 failure hscenario
  · obtain ⟨f, hf, hfailure⟩ := Option.bind_eq_some_iff.mp hfeeder
    exact h.2 f hf failure hfailure

end Output

end LoadScenario
