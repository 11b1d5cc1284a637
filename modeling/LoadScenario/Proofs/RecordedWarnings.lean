import LoadScenario.Proofs.CommandCourse
import LoadScenario.Proofs.Confinement
import Mathlib.Data.List.ReduceOption

/-!
# Which warnings come up

A command comes upon warnings at two places. The analysis warns about each request, in the order in
which they run, until it meets an id that is that of no request. And the work on the bodies looks
for each file once, whatever becomes of the scenario and the feeder, and warns about those that it
does not find. What a simulation holds when its command is over is all of that, in this order.
-/

namespace LoadScenario

open Work

/-- The warnings about the requests that a collection lists, up to the first id of none. -/
def Collection.warnings (c : Collection) : List Warning :=
  ((c.sequence.map fun entry => c.find? entry.2).takeWhile Option.isSome).reduceOption.flatMap
    (·.warnings)

/-- What the analysis has warned about when a command is over. -/
def Stage.analysisWarnings : Stage → List Warning
  | empty | loaded _ => []
  | feederBuilt c _ | requestsBuilt c _ _ | generated c _ _ => c.warnings

theorem Simulation.warnings_analyzeAll (c : Collection) (l : List (String × String)) :
    (analyzeAll c l).2 =
      ((l.map fun entry => c.find? entry.2).takeWhile Option.isSome).reduceOption.flatMap
        (·.warnings) := by
  induction l with
  | nil => rfl
  | cons entry l ih =>
      obtain ⟨container, id⟩ := entry
      rw [analyzeAll, List.map_cons]
      cases hfind : c.find? id with
      | none => rw [List.takeWhile_cons_of_neg (by simp)]; rfl
      | some r =>
          rw [List.takeWhile_cons_of_pos rfl, List.reduceOption_cons_of_some, List.flatMap_cons,
            ← ih]

theorem Simulation.Prepared.warnings {s s' : Simulation} {answer : Except Failure Unit}
    (h : Prepared s answer s') (hstage : s.stage = .empty) (hnone : s.warnings = []) :
    s'.warnings = s'.stage.analysisWarnings := by
  cases h with
  | unloaded =>
      show s.warnings = s.stage.analysisWarnings
      rw [hstage, hnone]
      rfl
  | cyclic => exact hnone
  | @unlisted _ _ c _ _ hanalyze | @derived _ c _ _ _ hanalyze =>
      have hwarnings := warnings_analyzeAll c c.sequence
      rw [hanalyze] at hwarnings
      show s.warnings ++ _ = c.warnings
      rw [hnone, List.nil_append]
      exact hwarnings

section

variable {W : Type} [FileAccess (StateM W)]

/-! ## The work on the bodies -/

/-- What a step on a body answers when it is performed on some files. -/
def BodyStep.answerOn (performed : BodyStep × W) : List Warning :=
  (runOn (performed.1.run : StateM W _) performed.2).1.toList

theorem answers_bodyTrace (es : List BodyStep) (w : W) :
    (runOn (runBodySteps es : StateM W _) w).1 = (bodyTrace es w).flatMap BodyStep.answerOn := by
  induction es generalizing w with
  | nil => rfl
  | cons e es ih =>
      rw [runBodySteps, runOn_bind, runOn_bind, runOn_pure, bodyTrace, List.flatMap_cons, ih]
      rfl

namespace Output

/-- The warnings of an output are the answers of the steps that have been performed, and what has
been performed and what is left are the given steps. -/
structure Answering (steps : List BodyStep) (performed : List (BodyStep × W)) (o : Output)
    (_ : W) : Prop where
  sound : o.bodies.Sound
  awaited : o.bodies.Awaited
  steps : (performed.map Prod.fst ++ o.bodies.effects).Perm steps
  warnings : o.warnings = performed.flatMap BodyStep.answerOn

variable {steps : List BodyStep}

theorem Answering.perform {performed : List (BodyStep × W)} {o : Output} {w : W}
    (h : Answering steps performed o w) {es : List BodyStep} {bodies : Tracker BodyStep}
    (hsound : bodies.Sound) (hawaited : bodies.Awaited)
    (hperm : (es ++ bodies.effects).Perm o.bodies.effects) :
    let answers := runOn (runBodySteps es : StateM W _) w
    Answering steps (performed ++ bodyTrace es w)
      { o with bodies, warnings := o.warnings ++ answers.1 } answers.2 := by
  refine ⟨hsound, hawaited, ?_, ?_⟩
  · rw [List.map_append, map_bodyTrace, List.append_assoc]
    exact (hperm.append_left _).trans h.steps
  · show o.warnings ++ _ = _
    rw [h.warnings, answers_bodyTrace, List.flatMap_append]

theorem keeps_answering_advanceFeeder (performed : List (BodyStep × W)) :
    Keeps (Answering steps performed) advanceFeeder := by
  intro o w h
  rw [advanceFeeder]
  split
  · exact h
  · exact ⟨h.sound, h.awaited, h.steps, h.warnings⟩

theorem extends_answering : Extends (W := W) (Answering steps) := fun k _ o _ h =>
  h.perform (h.sound.advance k) (h.awaited.play [k]) (o.bodies.perm_advance k)

/-- Each step on a body is performed once in a run, and the warnings are what they answer. -/
theorem answers_run {o : Output} (hsound : o.bodies.Sound) (hawaited : o.bodies.Awaited)
    (hnone : o.warnings = []) (schedule : Schedule) (w : W) :
    ((o.trace schedule w).map Prod.fst).Perm o.bodies.effects ∧
      (runOn (o.run schedule) w).1.warnings =
        (o.trace schedule w).flatMap BodyStep.answerOn := by
  have hplayed : Answering o.bodies.effects _ _ _ := extends_answering.play
    (fun _ _ _ h => ⟨h.sound, h.awaited, h.steps, h.warnings⟩) keeps_answering_advanceFeeder
    schedule.givesUp (schedule.turns ++ fileTurns) [] o w ⟨hsound, hawaited, .refl _, hnone⟩
  have hjoin := Tracker.perm_join hplayed.sound hplayed.awaited
  refine ⟨?_, ?_⟩
  · rw [trace, List.map_append, map_bodyTrace]
    exact (hjoin.append_left _).trans hplayed.steps
  · rw [trace, List.flatMap_append, ← answers_bodyTrace]
    exact congrArg (· ++ _) hplayed.warnings

end Output

/-! ## Whole commands -/

namespace Conversion

/-- What a conversion comes upon after the analysis, given the files that the analysis leaves: it
may not get to the work on the bodies, and if it does, all steps of that are performed. -/
inductive Finds (c : Conversion) (w : W) (s : Simulation) : List Warning → Prop
  | unprepared (hstate : s.state ≠ .requestsBuilt ∧ s.state ≠ .generated) : Finds c w s []
  | unmade {name : String} {fault : Fault} (hname : s.name? = some name)
      (hmade : (runOn (makeDirectories (c.layout.bodiesOf name) : StateM W _) w).1 =
        .error fault) :
    Finds c w s []
  | unread {name : String} {failure : Failure} {w₁ : W} (hname : s.name? = some name)
      (hmade : runOn (makeDirectories (c.layout.bodiesOf name)) w = (.ok (), w₁))
      (hread : (runOn (Simulation.readTemplate c.template : StateM W _) w₁).1 = .error failure) :
    Finds c w s []
  | worked {name : String} (hname : s.name? = some name) (performed : List (BodyStep × W))
      (hsteps : (performed.map Prod.fst).Perm
        ((bodyJobs c.layout.bodies name s.requests).flatMap BodyJob.steps)) :
    Finds c w s (performed.flatMap BodyStep.answerOn)

variable {c : Conversion} {s : Simulation}

theorem finds_writeAll {name : String} {rs : List Request} (hname : s.name? = some name)
    (hrequests : s.requests = rs) (feeder : Feeder) (schedule : Schedule) (w : W) :
    c.Finds w s
      (runOn (Simulation.writeAll schedule c.layout c.template name feeder rs) w).1.2 := by
  subst hrequests
  rcases hmade : runOn (makeDirectories (c.layout.bodiesOf name)) w with ⟨fault | _, w₁⟩
  · simp only [Simulation.writeAll, runOn_bind, hmade]
    exact .unmade hname (by rw [hmade])
  rcases hread : runOn (Simulation.readTemplate c.template) w₁ with ⟨failure | text, w₂⟩
  · simp only [Simulation.writeAll, runOn_bind, hmade, hread]
    exact .unread hname hmade (by rw [hread])
  let o := Simulation.output c.layout text name feeder s.requests
  have hsound := Simulation.sound_output c.layout text name feeder s.requests
  have hnone : o.warnings = [] := rfl
  obtain ⟨hsteps, hwarnings⟩ := Output.answers_run hsound.1 hsound.2 hnone schedule w₂
  have hjobs := (underway_bodyJobs (bodyJobs c.layout.bodies name s.requests)).steps
  rw [← bodyWork_eq, List.nil_append] at hjobs
  have hfound : (runOn (Simulation.writeAll schedule c.layout c.template name feeder s.requests)
      w).1.2 = (o.trace schedule w₂).flatMap BodyStep.answerOn := by
    simp only [Simulation.writeAll, runOn_bind, hmade, hread]
    split
    · exact hwarnings
    · exact hwarnings
  rw [hfound]
  exact .worked hname _ (hsteps.trans hjobs)

theorem unprepared {outputName : Option String} {failure : Failure}
    (h : (Simulation.new outputName).Prepared (.error failure) s) :
    s.state ≠ .requestsBuilt ∧ s.state ≠ .generated := by
  cases h with
  | unloaded | cyclic | unlisted => exact ⟨nofun, nofun⟩

/-- What a simulation holds when its conversion is over. -/
theorem warnings_steps (c : Conversion) (color : Bool) (schedule : Schedule) (w : W) :
    let loaded :=
      (runOn ((Simulation.new c.output).prepare c.collection c.environment : StateM W _) w).2
    let s := (runOn (c.steps color schedule) w).1.2.2
    ∃ found, c.Finds loaded s found ∧ s.warnings = s.stage.analysisWarnings ++ found := by
  intro loaded ended
  obtain ⟨failure, told, s, hprepared, hran⟩ |
      ⟨s, coll, feeder, rs, hprepared, hstage, hended, -⟩ := c.steps_prepared color schedule w
  · obtain rfl : ended = s := congrArg (·.1.2.2) hran
    refine ⟨[], .unprepared (unprepared hprepared), ?_⟩
    rw [List.append_nil]
    exact hprepared.warnings rfl rfl
  · have hwritten := Simulation.writtenFrom_write hstage schedule c.layout c.template loaded
    have hanalysis : ∀ s' : Simulation, s'.stage = .requestsBuilt coll feeder rs ∨
        s'.stage = .generated coll feeder rs → s'.stage.analysisWarnings = coll.warnings := by
      rintro s' (hstage | hstage) <;> rw [hstage] <;> rfl
    change ended = _ at hended
    rw [hended]
    refine ⟨_, finds_writeAll hwritten.named hwritten.requests_eq feeder schedule loaded, ?_⟩
    rw [hanalysis _ hwritten.stage, hwritten.warnings, hprepared.warnings rfl rfl,
      hanalysis _ (.inl hstage)]

end Conversion

end

end LoadScenario
