import LoadScenario.Proofs.SimulationRun

/-!
# Stages stand for drafts

A simulation with its stage has no room for parts that do not fit together, and its operations look
at the stage alone. A draft keeps the parts side by side and looks at the state, and may find that
there is no collection. All the same the two do the same: what a stage holds can be laid out as a
draft, and an operation on the simulation is then the operation on the draft (`perform_draft`). The
missing collection is the only thing that a draft can meet and a stage cannot, and in a draft that
has been laid out it is never met.

So every run of a simulation is a run of drafts (`reached_draft`), and what is known of consistent
drafts is known of the stages that are reached.
-/

namespace LoadScenario

theorem Simulation.state_of_stage {s : Simulation} {stage : Stage} (h : s.stage = stage) :
    s.state = stage.state := by rw [Simulation.state, h]

/-! ## Operations on a simulation -/

section

variable {W : Type} [FileAccess (StateM W)]

/-- Performs an operation. -/
def Simulation.perform (s : Simulation) : Operation → StateM W (Except Failure Unit × Simulation)
  | .readEnvironment path => s.readEnvironment path
  | .readCollection path => s.readCollection path
  | .deriveFeeder => return s.deriveFeeder
  | .deriveRequests => return s.deriveRequests
  | .write schedule layout template => do
    let (answer, s) ← s.write schedule layout template
    return (answer.map fun _ => (), s)

end

/-- An operation on a simulation, with the files as they are when it begins. -/
structure Step (W : Type) where
  before : Simulation
  operation : Operation
  files : W

section

variable {W : Type} [FileAccess (StateM W)]

def Step.after (x : Step W) : Simulation := (runOn (x.before.perform x.operation) x.files).1.2

/-- The simulation after a run. -/
def Simulation.reached (s : Simulation) : List (Operation × W) → Simulation
  | [] => s
  | (op, files) :: rest => reached (Step.after ⟨s, op, files⟩) rest

end

namespace Simulation

section

variable {W : Type} [FileAccess (StateM W)] {s : Simulation} {c : Collection} {feeder : Feeder}
  {requests : List Request} {schedule : Schedule} {layout : Layout} {template : Option Path}
  {ws : List Warning} {w w' : W}

theorem runOn_write_ok {report : Report}
    (hstage : s.stage = .requestsBuilt c feeder requests)
    (hall : runOn (writeAll schedule layout template (s.nameFor c) feeder requests) w =
      ((.ok report, ws), w')) :
    runOn (s.write schedule layout template) w =
      ((.ok report, { s with
        stage := .generated c feeder requests
        warnings := s.warnings ++ ws }), w') := by
  simp only [write, hstage, runOn_bind, hall]
  rfl

theorem runOn_write_error {failure : Failure}
    (hstage : s.stage = .requestsBuilt c feeder requests)
    (hall : runOn (writeAll schedule layout template (s.nameFor c) feeder requests) w =
      ((.error failure, ws), w')) :
    runOn (s.write schedule layout template) w =
      ((.error failure, { s with warnings := s.warnings ++ ws }), w') := by
  simp only [write, hstage, runOn_bind, hall]
  rfl

theorem name?_of_collection? (h : s.stage.collection? = some c) :
    s.name? = some (s.nameFor c) := by
  rw [name?, nameFor, h]
  cases s.outputName <;> rfl

end

/-! ## Laying out a stage -/

/-- The parts of a simulation side by side. -/
def draft (s : Simulation) : Draft where
  outputName := s.outputName
  environment := s.environment
  collection := s.stage.collection?
  feeder := s.feeder
  requests := s.requests
  state := s.state
  warnings := s.warnings

/-- What an operation comes to, with the simulation laid out. -/
def drafted {α : Type} (result : Except Failure α × Simulation) : Except Obstacle α × Draft :=
  (result.1.mapError .failure, result.2.draft)

theorem name?_draft (s : Simulation) : s.draft.name? = s.name? := rfl

theorem deriveFeeder_draft (s : Simulation) : s.draft.deriveFeeder = drafted s.deriveFeeder := by
  obtain ⟨outputName, environment, stage, ws⟩ := s
  cases stage with
  | loaded c =>
      simp only [Draft.deriveFeeder, deriveFeeder]
      cases hbuild : Feeder.build environment with
      | ok feeder => simp only [draft, hbuild]; rfl
      | error names => simp only [draft, hbuild]; rfl
  | empty | feederBuilt | requestsBuilt | generated => rfl

theorem deriveRequests_draft (s : Simulation) :
    s.draft.deriveRequests = drafted s.deriveRequests := by
  obtain ⟨outputName, environment, stage, ws⟩ := s
  cases stage with
  | feederBuilt c feeder =>
      rcases hanalyze : analyzeAll c c.sequence with ⟨failure | requests, found⟩
      · simp only [Draft.deriveRequests, deriveRequests, draft, Stage.collection?, hanalyze]
        rfl
      · simp only [Draft.deriveRequests, deriveRequests, draft, Stage.collection?, hanalyze]
        rfl
  | empty | loaded | requestsBuilt | generated => rfl

section

variable {W : Type} [FileAccess (StateM W)]

theorem readEnvironment_draft (s : Simulation) (path : Option Path) (w : W) :
    runOn (s.draft.readEnvironment path) w =
      Prod.map drafted id (runOn (s.readEnvironment path) w) := by
  obtain ⟨outputName, environment, stage, ws⟩ := s
  cases stage with
  | empty | loaded =>
      cases path with
      | none => rfl
      | some path =>
          simp only [Draft.readEnvironment, readEnvironment, draft, state, Stage.state,
            Draft.obstacle?, reduceCtorEq, if_true, if_false, ne_eq, not_true, not_false_eq_true,
            and_true, and_false, runOn_bind]
          cases (runOn (readText path) w).1 with
          | error fault => rfl
          | ok text =>
              cases hdocument : Environment.read? text <;> simp only [hdocument] <;> rfl
  | feederBuilt | requestsBuilt | generated => rfl

theorem readCollection_draft (s : Simulation) (path : Path) (w : W) :
    runOn (s.draft.readCollection path) w =
      Prod.map drafted id (runOn (s.readCollection path) w) := by
  obtain ⟨outputName, environment, stage, ws⟩ := s
  cases stage with
  | empty =>
      simp only [Draft.readCollection, readCollection, draft, state, Stage.state,
        Draft.obstacle?, if_true, runOn_bind]
      cases (runOn (readText path) w).1 with
      | error fault => rfl
      | ok text =>
          cases hdocument : Collection.read? text <;> simp only [hdocument] <;> rfl
  | loaded | feederBuilt | requestsBuilt | generated => rfl

theorem write_draft (s : Simulation) (schedule : Schedule) (layout : Layout)
    (template : Option Path) (w : W) :
    runOn (s.draft.write schedule layout template) w =
      Prod.map drafted id (runOn (s.write schedule layout template) w) := by
  cases hstage : s.stage with
  | requestsBuilt c feeder requests =>
      have hstate : s.draft.state = .requestsBuilt := state_of_stage hstage
      have hname : s.draft.name? = some (s.nameFor c) :=
        s.name?_draft.trans (name?_of_collection? (by rw [hstage]; rfl))
      have hfeeder : s.draft.feeder = feeder := by rw [draft, Simulation.feeder, hstage]; rfl
      have hrequests : s.draft.requests = requests := by
        rw [draft, Simulation.requests, hstage]
        rfl
      rcases hall : runOn (writeAll schedule layout template (s.nameFor c) feeder requests) w
        with ⟨⟨failure | report, found⟩, w'⟩
      · rw [runOn_write_error hstage hall]
        rw [← hfeeder, ← hrequests] at hall
        rw [Draft.runOn_write_error hstate hname hall]
        rfl
      · rw [runOn_write_ok hstage hall]
        rw [← hfeeder, ← hrequests] at hall
        rw [Draft.runOn_write_ok hstate hname hall]
        obtain ⟨outputName, environment, _, ws⟩ := s
        obtain rfl := hstage
        rfl
  | empty | loaded | feederBuilt | generated =>
      obtain ⟨outputName, environment, _, ws⟩ := s
      obtain rfl := hstage
      rfl

/-- An operation on a simulation is the operation on what it is laid out as. -/
theorem perform_draft (s : Simulation) (op : Operation) (w : W) :
    runOn (s.draft.perform op) w = Prod.map drafted id (runOn (s.perform op) w) := by
  cases op with
  | readEnvironment path => exact s.readEnvironment_draft path w
  | readCollection path => exact s.readCollection_draft path w
  | deriveFeeder => exact congrArg (·, w) s.deriveFeeder_draft
  | deriveRequests => exact congrArg (·, w) s.deriveRequests_draft
  | write schedule layout template =>
      have hwrite := s.write_draft schedule layout template w
      rw [Draft.perform, perform, runOn_bind, runOn_bind, hwrite]
      rcases runOn (s.write schedule layout template) w with ⟨⟨_ | _, _⟩, _⟩ <;> rfl

theorem reached_draft (s : Simulation) (events : List (Operation × W)) :
    (s.reached events).draft = s.draft.reached events := by
  induction events generalizing s with
  | nil => rfl
  | cons event events ih =>
      obtain ⟨op, files⟩ := event
      have hstep : (Step.after ⟨s, op, files⟩).draft = Draft.Step.after ⟨s.draft, op, files⟩ := by
        rw [Draft.Step.after, s.perform_draft op files]
        rfl
      rw [reached, Draft.reached, ih, hstep]

end

end Simulation

/-! ## What has been derived -/

/-- What has been derived at a stage from an environment. -/
def Stage.Derived (environment : Environment) : Stage → Prop
  | .empty | .loaded _ => True
  | .feederBuilt _ f => Feeder.build environment = .ok f
  | .requestsBuilt c f rs | .generated c f rs =>
    Feeder.build environment = .ok f ∧ c.Analyses rs

/-- Once a feeder has been derived no step reads an environment any more, so the feeder can be told
from the environment of the simulation itself. -/
theorem Simulation.derived_of_consistent {W : Type} [FileAccess (StateM W)] {s : Simulation}
    {past : List (Draft.Step W)} (h : Draft.Consistent past s.draft) :
    s.stage.Derived s.environment := by
  have henvironment : s.environment = Draft.lastEnvironment past := h.environment
  have hcollection : s.stage.collection? = Draft.lastCollection? past := h.collection
  rw [henvironment]
  obtain ⟨outputName, environment, stage, ws⟩ := s
  cases stage with
  | empty | loaded => trivial
  | feederBuilt c feeder => exact h.feederAfter (by rintro (h | h) <;> cases h)
  | requestsBuilt c feeder requests | generated c feeder requests =>
      obtain ⟨c', hlast, hanalyses⟩ :=
        h.requestsAfter (by rintro (h | h | h) <;> cases h)
      obtain rfl := Option.some.inj (hcollection.trans hlast)
      exact ⟨h.feederAfter (by rintro (h | h) <;> cases h), hanalyses⟩

/-- What a simulation holds in any run has been derived from its own environment. -/
theorem Simulation.derived_reached {W : Type} [FileAccess (StateM W)] (outputName : Option String)
    (events : List (Operation × W)) :
    ((new outputName).reached events).stage.Derived
      ((new outputName).reached events).environment := by
  have hconsistent := Draft.consistent_reached outputName events
  rw [← show (new outputName).draft = Draft.new outputName from rfl, ← reached_draft] at hconsistent
  exact derived_of_consistent hconsistent

end LoadScenario
