import LoadScenario.Proofs.GeneratedFiles
import LoadScenario.Proofs.TwinFiles

/-!
# Two outputs side by side

The values of the variables go into the feeder file and nowhere else. So two simulations that differ
in them have outputs that are the same but for the text of that file, and on files that look alike a
schedule takes both outputs through the same steps: the same directories are made, the same files
are written, the same failures and warnings come up. The feeder file is the only one that comes out
differently.

The relation `Output.Twin` is kept by each turn, so nothing has to be known of the schedule but that
it is the same one.
-/

namespace LoadScenario

variable {own : Location → Prop} {start start' : FileSystem}

/-- Files that are written alike, and with the same text unless their place is one of its own. -/
structure OutputFile.Twin (own : Location → Prop) (here : Location) (f f' : OutputFile) :
    Prop where
  path : f'.path = f.path
  progress : f'.progress = f.progress
  content : f'.content = f.content ∨ own (f.path.destination here)

namespace OutputFile.Twin

variable {here : Location} {f f' : OutputFile}

theorem failure?_eq (h : f.Twin own here f') : f'.failure? = f.failure? := by
  rw [failure?, failure?, h.progress]

theorem directory?_eq (h : f.Twin own here f') : f'.directory? = f.directory? := by
  rw [directory?, directory?, h.path]

theorem advance (h : f.Twin own start.here f') :
    InStep (Twins own start start') (Twin own start.here) f.advance f'.advance := by
  rw [OutputFile.advance, OutputFile.advance, h.progress, h.directory?_eq, h.path]
  split
  · split
    · exact .pure ⟨rfl, rfl, h.content⟩
    · next dir _ =>
        refine (inStep_makeDirectories dir).bind_eq fun made => ?_
        cases made with
        | ok _ => exact .pure ⟨rfl, rfl, h.content⟩
        | error fault => exact .pure ⟨rfl, rfl, h.content⟩
  · refine (inStep_write h.content).bind_eq fun written => ?_
    cases written with
    | ok _ => exact .pure ⟨rfl, rfl, h.content⟩
    | error fault => exact .pure ⟨rfl, rfl, h.content⟩
  · exact .pure h

end OutputFile.Twin

theorem inStep_runBodyStep (e : BodyStep) :
    InStep (Twins own start start') Eq e.run e.run := by
  cases e with
  | write path content => exact (inStep_write (.inl rfl)).bind_eq fun _ => .pure rfl
  | check request path => exact (inStep_acceptsWrites path).bind_eq fun _ => .pure rfl

theorem inStep_runBodySteps (es : List BodyStep) :
    InStep (Twins own start start') Eq (runBodySteps es) (runBodySteps es) := by
  induction es with
  | nil => exact .pure rfl
  | cons e es ih =>
      exact (inStep_runBodyStep e).bind_eq fun _ => ih.bind_eq fun _ => .pure rfl

namespace Output

/-- Outputs that are the same but for texts in places of their own. -/
structure Twin (own : Location → Prop) (here : Location) (o o' : Output) : Prop where
  scenario : o.scenario.Twin own here o'.scenario
  feeder : Option.Rel (OutputFile.Twin own here) o.feeder o'.feeder
  bodies : o'.bodies = o.bodies
  warnings : o'.warnings = o.warnings

namespace Twin

variable {here : Location} {o o' : Output}

theorem failure?_eq (h : o.Twin own here o') : o'.failure? = o.failure? := by
  obtain ⟨scenario, feeder, bodies, warnings⟩ := o
  obtain ⟨scenario', feeder', bodies', warnings'⟩ := o'
  rw [failure?, failure?, h.scenario.failure?_eq]
  cases h.feeder with
  | none => rfl
  | some hf =>
      rw [Option.bind_some, Option.bind_some, hf.failure?_eq]

theorem advanceScenario (h : o.Twin own start.here o') :
    InStep (Twins own start start') (Twin own start.here) o.advanceScenario o'.advanceScenario :=
  h.scenario.advance.bind fun _ _ hf => .pure ⟨hf, h.feeder, h.bodies, h.warnings⟩

theorem advanceFeeder (h : o.Twin own start.here o') :
    InStep (Twins own start start') (Twin own start.here) o.advanceFeeder o'.advanceFeeder := by
  obtain ⟨scenario, feeder, bodies, warnings⟩ := o
  obtain ⟨scenario', feeder', bodies', warnings'⟩ := o'
  cases h.feeder with
  | none => exact .pure h
  | some hf =>
      exact hf.advance.bind fun _ _ hf => .pure ⟨h.scenario, .some hf, h.bodies, h.warnings⟩

theorem bodySteps (h : o.Twin own start.here o') (es : List BodyStep)
    (bodies : Work.Tracker BodyStep) :
    InStep (Twins own start start') (Twin own start.here)
      (do
        let warnings ← runBodySteps es
        return { o with bodies, warnings := o.warnings ++ warnings })
      (do
        let warnings ← runBodySteps es
        return { o' with bodies, warnings := o'.warnings ++ warnings }) :=
  (inStep_runBodySteps es).bind_eq fun _ =>
    .pure ⟨h.scenario, h.feeder, rfl, by rw [h.warnings]⟩

theorem advanceBody (h : o.Twin own start.here o') (k : Work.Handle) :
    InStep (Twins own start start') (Twin own start.here) (o.advanceBody k) (o'.advanceBody k) := by
  rw [Output.advanceBody, Output.advanceBody, h.bodies]
  exact h.bodySteps _ _

theorem advance (h : o.Twin own start.here o') (givesUp : Bool) (turn : Turn) :
    InStep (Twins own start start') (Twin own start.here) (o.advance givesUp turn)
      (o'.advance givesUp turn) := by
  have hgiven : o'.isGivenUp givesUp = o.isGivenUp givesUp := by
    rw [isGivenUp, isGivenUp, h.failure?_eq]
  cases turn with
  | scenario =>
      rw [Output.advance, Output.advance, hgiven]
      split
      · exact .pure h
      · exact h.advanceScenario
  | feeder =>
      rw [Output.advance, Output.advance, hgiven]
      split
      · exact .pure h
      · exact h.advanceFeeder
  | body k => exact h.advanceBody k

theorem play (h : o.Twin own start.here o') (givesUp : Bool) (turns : List Turn) :
    InStep (Twins own start start') (Twin own start.here) (o.play givesUp turns)
      (o'.play givesUp turns) := by
  induction turns generalizing o o' with
  | nil => exact .pure h
  | cons turn turns ih => exact (h.advance givesUp turn).bind fun _ _ h => ih h

theorem joinBodies (h : o.Twin own start.here o') :
    InStep (Twins own start start') (Twin own start.here) o.joinBodies o'.joinBodies := by
  rw [Output.joinBodies, Output.joinBodies, h.bodies]
  exact h.bodySteps _ _

theorem run (h : o.Twin own start.here o') (schedule : Schedule) :
    InStep (Twins own start start') (Twin own start.here) (o.run schedule) (o'.run schedule) :=
  (h.play schedule.givesUp (schedule.turns ++ fileTurns)).bind fun _ _ h => h.joinBodies

end Twin

end Output

/-! ## Reading -/

namespace Twins

variable {fs fs' : FileSystem} {p : Path}

/-- A file that has been the same from the start is read alike as long as nobody writes to it. -/
theorem read (h : Twins own start start' fs fs') (hown : ¬ own (p.destination start.here))
    (hstart : start'.node? (p.destination start.here) = start.node? (p.destination start.here)) :
    fs'.read p = fs.read p := by
  have hnode : fs'.node? (p.destination start.here) = fs.node? (p.destination start.here) := by
    obtain hsame | ⟨hleft, hleft'⟩ := h.nodes _ hown
    · exact hsame
    · rw [hleft, hleft', hstart]
  rw [FileSystem.read, FileSystem.read, h.locate]
  cases hlocate : fs.locate p with
  | error fault => rfl
  | ok l =>
      obtain rfl := FileSystem.eq_destination_of_locate hlocate
      rw [h.here]
      simp only [bind, Except.bind, hnode]

theorem readText (h : Twins own start start' fs fs') (hown : ¬ own (p.destination start.here))
    (hstart : start'.node? (p.destination start.here) = start.node? (p.destination start.here)) :
    (runOn (readText p : StateM FileSystem _) fs').1 =
      (runOn (LoadScenario.readText p : StateM FileSystem _) fs).1 :=
  congrArg (Except.bind · Content.text?) (h.read hown hstart)

theorem readTemplate (h : Twins (fun _ => False) start start' fs fs') {template : Option Path}
    (htemplate : ∀ p, template = some p →
      start'.node? (p.destination start.here) = start.node? (p.destination start.here)) :
    (runOn (Simulation.readTemplate template : StateM FileSystem _) fs').1 =
      (runOn (Simulation.readTemplate template : StateM FileSystem _) fs).1 := by
  cases template with
  | none => rfl
  | some p =>
      exact congrArg (Except.mapError (Failure.templateUnreadable p))
        (h.readText id (htemplate p rfl))

end Twins

/-! ## Writing a simulation -/

namespace Simulation

variable {feeder feeder' : Feeder}

end Simulation

end LoadScenario
