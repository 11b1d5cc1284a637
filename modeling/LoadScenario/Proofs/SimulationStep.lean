import LoadScenario.Proofs.OutputRun
import LoadScenario.Simulation.Draft

/-!
# What one operation does to a simulation

An operation is performed on a draft while the files are in some state, and everything that it reads
and writes is up to the files. So nothing is assumed of them here: they are a type of their own with
any operations at all, and a theorem about a step holds whatever the files answer.

A step is refused, or it fails, or it finds no collection, or it succeeds in the one way that its
operation has. `Effect` lists these ways with all that each of them does, and `Step.effect` says
that there are no others. Nothing is assumed of the draft either, so its parts need not fit
together. What is proved about single steps and about runs is read off that list.
-/

namespace LoadScenario

theorem Output.failsToWrite_output (layout : Layout) (template simulation : String)
    (feeder : Feeder) (requests : List Request) :
    (Simulation.output layout template simulation feeder requests).FailsToWrite := by
  refine ⟨nofun, ?_⟩
  intro f hf failure hfailure
  obtain ⟨path, -, rfl⟩ := Option.map_eq_some_iff.mp hf
  cases hfailure

/-- The analysis of a collection fails at an id that is that of no request. -/
theorem Simulation.analyzeAll_error {c : Collection} {l : List (String × String)}
    {failure : Failure} (h : (Simulation.analyzeAll c l).1 = .error failure) :
    ∃ id container, failure = .requestNotFound id container := by
  induction l with
  | nil => cases h
  | cons entry rest ih =>
      obtain ⟨container, id⟩ := entry
      rw [Simulation.analyzeAll] at h
      cases hfind : c.find? id with
      | none =>
          simp only [hfind] at h
          exact ⟨id, container, (Except.error.inj h).symm⟩
      | some r =>
          simp only [hfind] at h
          cases hrest : (Simulation.analyzeAll c rest).1 with
          | error failure' =>
              rw [hrest] at h
              exact ih (by rw [hrest, Except.error.inj h])
          | ok requests =>
              rw [hrest] at h
              cases h

/-- Writing fails for a reason that lies with the files, the template or the output. -/
theorem Simulation.writeAll_error {W : Type} [FileAccess (StateM W)] {schedule : Schedule}
    {layout : Layout} {template : Option Path} {simulation : String} {feeder : Feeder}
    {requests : List Request} {failure : Failure} {w : W}
    (h : (runOn (writeAll schedule layout template simulation feeder requests) w).1.1 =
      .error failure) : ∀ a s, failure ≠ .wrongState a s := by
  rw [Simulation.writeAll, runOn_bind] at h
  rcases hdir : runOn (makeDirectories (layout.bodiesOf simulation)) w with ⟨made, w₁⟩
  cases made with
  | error fault =>
      simp only [hdir] at h
      obtain rfl := Except.error.inj h
      exact fun _ _ => nofun
  | ok _ =>
      simp only [hdir, runOn_bind] at h
      rcases htemplate : runOn (Simulation.readTemplate template) w₁ with ⟨read, w₂⟩
      cases read with
      | error cause =>
          simp only [htemplate] at h
          obtain rfl := Except.error.inj h
          cases template with
          | none => cases htemplate
          | some path =>
              have hcause := congrArg Prod.fst htemplate
              rw [Simulation.readTemplate, runOn_bind, runOn_pure] at hcause
              cases hread : (runOn (readText path) w₁).1 with
              | error fault =>
                  rw [hread] at hcause
                  obtain rfl := Except.error.inj hcause
                  exact fun _ _ => nofun
              | ok text =>
                  rw [hread] at hcause
                  cases hcause
      | ok text =>
          simp only [htemplate, runOn_bind] at h
          split at h
          · next cause hcause =>
              obtain rfl := Except.error.inj h
              have houtput := (Output.failsToWrite_output layout text simulation feeder
                requests).run schedule w₂ |>.isOutput hcause
              rintro a s rfl
              exact houtput
          · cases h

/-! ## Operations -/

/-- Something that is asked of a simulation. -/
inductive Operation where
  | readEnvironment (path : Option Path)
  | readCollection (path : Path)
  | deriveFeeder
  | deriveRequests
  | write (schedule : Schedule) (layout : Layout) (template : Option Path)

/-- The action that an operation carries out. -/
def Operation.action : Operation → Action
  | readEnvironment _ => .readEnvironment
  | readCollection _ => .readCollection
  | deriveFeeder => .deriveFeeder
  | deriveRequests => .deriveRequests
  | write _ _ _ => .write

/-- Whether an action is possible in a state. -/
def Action.PossibleIn : Action → State → Prop
  | readEnvironment, s => s = .empty ∨ s = .loaded
  | readCollection, s => s = .empty
  | deriveFeeder, s => s = .loaded
  | deriveRequests, s => s = .feederBuilt
  | write, s => s = .requestsBuilt

/-- The state behind a state. -/
def State.next? : State → Option State
  | empty => some .loaded
  | loaded => some .feederBuilt
  | feederBuilt => some .requestsBuilt
  | requestsBuilt => some .generated
  | generated => none

namespace Draft

section

variable {W : Type} [FileAccess (StateM W)]

/-- Performs an operation. -/
def perform (d : Draft) : Operation → StateM W (Except Obstacle Unit × Draft)
  | .readEnvironment path => d.readEnvironment path
  | .readCollection path => d.readCollection path
  | .deriveFeeder => return d.deriveFeeder
  | .deriveRequests => return d.deriveRequests
  | .write schedule layout template => do
    let (answer, d) ← d.write schedule layout template
    return (answer.map fun _ => (), d)

end

variable {d : Draft} {expected : State} {action : Action}

theorem obstacle?_of_state (h : d.state = expected) : d.obstacle? expected action = none :=
  if_pos h

theorem obstacle?_of_ne (h : d.state ≠ expected) :
    d.obstacle? expected action = some (.failure (.wrongState action d.state)) :=
  if_neg h

/-- Without a name there is no collection to take one from. -/
theorem collection_of_name? (h : d.name? = none) : d.collection = none := by
  have hnone := Option.or_eq_none_iff.mp (Option.map_eq_none_iff.mp h)
  exact Option.map_eq_none_iff.mp hnone.2

variable {W : Type} [FileAccess (StateM W)] {name : String} {schedule : Schedule} {layout : Layout}
  {template : Option Path} {ws : List Warning} {w w' : W}

theorem runOn_write_ok {report : Report} (hstate : d.state = .requestsBuilt)
    (hname : d.name? = some name)
    (hall : runOn (Simulation.writeAll schedule layout template name d.feeder d.requests) w =
      ((.ok report, ws), w')) :
    runOn (d.write schedule layout template) w =
      ((.ok report, { d with
        state := .generated
        warnings := d.warnings ++ ws }), w') := by
  simp only [write, obstacle?_of_state hstate, hname, runOn_bind, hall]
  rfl

theorem runOn_write_error {failure : Failure} (hstate : d.state = .requestsBuilt)
    (hname : d.name? = some name)
    (hall : runOn (Simulation.writeAll schedule layout template name d.feeder d.requests) w =
      ((.error failure, ws), w')) :
    runOn (d.write schedule layout template) w =
      ((.error (.failure failure), { d with warnings := d.warnings ++ ws }), w') := by
  simp only [write, obstacle?_of_state hstate, hname, runOn_bind, hall]
  rfl

end Draft

/-- An operation on a draft, with the files as they are when it begins. -/
structure Draft.Step (W : Type) where
  before : Draft
  operation : Operation
  files : W

namespace Draft.Step

variable {W : Type} [FileAccess (StateM W)] (x : Step W)

def answer : Except Obstacle Unit := (runOn (x.before.perform x.operation) x.files).1.1

def after : Draft := (runOn (x.before.perform x.operation) x.files).1.2

def filesAfter : W := (runOn (x.before.perform x.operation) x.files).2

/-- The text that the files hold at a path when the step begins. -/
def textAt? (path : Path) : Option String := (runOn (readText path) x.files).1.toOption

/-- The ways in which a step can go: its answer, the draft and the files behind it. -/
inductive Effect : Except Obstacle Unit → Draft → W → Prop
  | refused (h : ¬ x.operation.action.PossibleIn x.before.state) :
      Effect (.error (.failure (.wrongState x.operation.action x.before.state))) x.before x.files
  | failed {failure : Failure} {ws : List Warning} {files : W}
      (h : x.operation.action.PossibleIn x.before.state)
      (hcause : ∀ a s, failure ≠ .wrongState a s) :
      Effect (.error (.failure failure))
        { x.before with warnings := x.before.warnings ++ ws } files
  | collectionMissing (h : x.operation.action.PossibleIn x.before.state)
      (hstate : x.before.state ≠ .empty) (hnone : x.before.collection = none) :
      Effect (.error .noCollection) x.before x.files
  | environmentKept (h : x.operation.action.PossibleIn x.before.state)
      (hop : x.operation = .readEnvironment none) : Effect (.ok ()) x.before x.files
  | environmentRead {path : Path} {environment : Environment} {files : W}
      (h : x.operation.action.PossibleIn x.before.state)
      (hop : x.operation = .readEnvironment (some path))
      (hread : (x.textAt? path).bind Environment.read? = some environment) :
      Effect (.ok ()) { x.before with environment } files
  | collectionRead {path : Path} {c : Collection} {files : W}
      (hop : x.operation = .readCollection path) (hstate : x.before.state = .empty)
      (hread : (x.textAt? path).bind Collection.read? = some c) :
      Effect (.ok ()) { x.before with
        collection := some c
        state := .loaded } files
  | feederDerived {feeder : Feeder} (hop : x.operation = .deriveFeeder)
      (hstate : x.before.state = .loaded)
      (hbuild : Feeder.build x.before.environment = .ok feeder) :
      Effect (.ok ()) { x.before with
        feeder
        state := .feederBuilt } x.files
  | requestsDerived {c : Collection} {requests : List Request} {ws : List Warning}
      (hop : x.operation = .deriveRequests) (hstate : x.before.state = .feederBuilt)
      (hcollection : x.before.collection = some c)
      (hrequests : Simulation.analyzeAll c c.sequence = (.ok requests, ws)) :
      Effect (.ok ()) { x.before with
        requests
        state := .requestsBuilt
        warnings := x.before.warnings ++ ws } x.files
  | written {schedule : Schedule} {layout : Layout} {template : Option Path} {ws : List Warning}
      {files : W} (hop : x.operation = .write schedule layout template)
      (hstate : x.before.state = .requestsBuilt) :
      Effect (.ok ()) { x.before with
        state := .generated
        warnings := x.before.warnings ++ ws } files

/-! ## There are no other ways -/

section

variable {d : Draft} {w : W}

theorem effect_of_run {op : Operation} {answer : Except Obstacle Unit} {d' : Draft} {w' : W}
    (hrun : runOn (d.perform op) w = ((answer, d'), w')) (h : Effect ⟨d, op, w⟩ answer d' w') :
    Effect ⟨d, op, w⟩ (Step.answer ⟨d, op, w⟩) (after ⟨d, op, w⟩) (filesAfter ⟨d, op, w⟩) := by
  rw [Step.answer, after, filesAfter, hrun]
  exact h

/-- A failure that leaves no warnings. -/
theorem Effect.failedAsIs {x : Step W} {failure : Failure} {files : W}
    (h : x.operation.action.PossibleIn x.before.state)
    (hcause : ∀ a s, failure ≠ .wrongState a s) :
    Effect x (.error (.failure failure)) x.before files := by
  have heffect : Effect x (.error (.failure failure))
      { x.before with warnings := x.before.warnings ++ [] } files := .failed h hcause
  rwa [List.append_nil] at heffect

/-- What is to be shown of an operation: on any draft and files it has one of the effects. -/
def HasEffect (W : Type) [FileAccess (StateM W)] (op : Operation) : Prop :=
  ∀ (d : Draft) (w : W), Effect ⟨d, op, w⟩ (answer ⟨d, op, w⟩) (after ⟨d, op, w⟩)
    (filesAfter ⟨d, op, w⟩)

theorem hasEffect_readEnvironment (path : Option Path) : HasEffect W (.readEnvironment path) := by
  intro d w
  by_cases hstate : d.state = .empty ∨ d.state = .loaded
  · have hfree : (if d.state = .loaded then none else
        d.obstacle? .empty .readEnvironment) = none := by
      split
      · rfl
      · next hloaded => exact obstacle?_of_state (hstate.resolve_right hloaded)
    cases path with
    | none =>
        have hrun : runOn (d.perform (.readEnvironment none)) w = ((.ok (), d), w) := by
          simp only [perform, readEnvironment, hfree]
          rfl
        exact effect_of_run hrun (.environmentKept hstate rfl)
    | some path =>
        rcases hread : runOn (readText path) w with ⟨read, w'⟩
        cases read with
        | error fault =>
            have hrun : runOn (d.perform (.readEnvironment (some path))) w =
                ((.error (.failure (.environmentUnreadable path fault)), d), w') := by
              simp only [perform, readEnvironment, hfree, runOn_bind, hread]
              rfl
            exact effect_of_run hrun (.failedAsIs hstate fun _ _ => nofun)
        | ok text =>
            cases henvironment : Environment.read? text with
            | none =>
                have hrun : runOn (d.perform (.readEnvironment (some path))) w =
                    ((.error (.failure .environmentMalformed), d), w') := by
                  simp only [perform, readEnvironment, hfree, runOn_bind, hread, henvironment]
                  rfl
                exact effect_of_run hrun (.failedAsIs hstate fun _ _ => nofun)
            | some environment =>
                have hrun : runOn (d.perform (.readEnvironment (some path))) w =
                    ((.ok (), { d with environment }), w') := by
                  simp only [perform, readEnvironment, hfree, runOn_bind, hread, henvironment]
                  rfl
                refine effect_of_run hrun (.environmentRead hstate rfl ?_)
                simp only [textAt?, hread, Except.toOption, Option.bind_some, henvironment]
  · obtain ⟨hempty, hloaded⟩ := not_or.mp hstate
    have hrun : runOn (d.perform (.readEnvironment path)) w =
        ((.error (.failure (.wrongState .readEnvironment d.state)), d), w) := by
      simp only [perform, readEnvironment, if_neg hloaded, obstacle?_of_ne hempty]
      rfl
    exact effect_of_run hrun (.refused hstate)

theorem hasEffect_readCollection (path : Path) : HasEffect W (.readCollection path) := by
  intro d w
  by_cases hstate : d.state = .empty
  · have hfree := @obstacle?_of_state d _ .readCollection hstate
    rcases hread : runOn (readText path) w with ⟨read, w'⟩
    cases read with
    | error fault =>
        have hrun : runOn (d.perform (.readCollection path)) w =
            ((.error (.failure (.collectionUnreadable path fault)), d), w') := by
          simp only [perform, readCollection, hfree, runOn_bind, hread]
          rfl
        exact effect_of_run hrun (.failedAsIs hstate fun _ _ => nofun)
    | ok text =>
        cases hcollection : Collection.read? text with
        | none =>
            have hrun : runOn (d.perform (.readCollection path)) w =
                ((.error (.failure .collectionMalformed), d), w') := by
              simp only [perform, readCollection, hfree, runOn_bind, hread, hcollection]
              rfl
            exact effect_of_run hrun (.failedAsIs hstate fun _ _ => nofun)
        | some c =>
            have hrun : runOn (d.perform (.readCollection path)) w =
                ((.ok (), { d with collection := some c, state := .loaded }), w') := by
              simp only [perform, readCollection, hfree, runOn_bind, hread, hcollection]
              rfl
            refine effect_of_run hrun (.collectionRead rfl hstate ?_)
            simp only [textAt?, hread, Except.toOption, Option.bind_some, hcollection]
  · have hrun : runOn (d.perform (.readCollection path)) w =
        ((.error (.failure (.wrongState .readCollection d.state)), d), w) := by
      simp only [perform, readCollection, obstacle?_of_ne hstate]
      rfl
    exact effect_of_run hrun (.refused hstate)

theorem hasEffect_deriveFeeder : HasEffect W .deriveFeeder := by
  intro d w
  by_cases hstate : d.state = .loaded
  · have hfree := @obstacle?_of_state d _ .deriveFeeder hstate
    cases hbuild : Feeder.build d.environment with
    | error names =>
        have hrun : runOn (d.perform .deriveFeeder) w =
            ((.error (.failure (.cyclicVariables names)), d), w) := by
          simp only [perform, deriveFeeder, hfree, hbuild]
          rfl
        exact effect_of_run hrun (.failedAsIs hstate fun _ _ => nofun)
    | ok feeder =>
        have hrun : runOn (d.perform .deriveFeeder) w =
            ((.ok (), { d with feeder, state := .feederBuilt }), w) := by
          simp only [perform, deriveFeeder, hfree, hbuild]
          rfl
        exact effect_of_run hrun (.feederDerived rfl hstate hbuild)
  · have hrun : runOn (d.perform .deriveFeeder) w =
        ((.error (.failure (.wrongState .deriveFeeder d.state)), d), w) := by
      simp only [perform, deriveFeeder, obstacle?_of_ne hstate]
      rfl
    exact effect_of_run hrun (.refused hstate)

theorem hasEffect_deriveRequests : HasEffect W .deriveRequests := by
  intro d w
  by_cases hstate : d.state = .feederBuilt
  · have hfree := @obstacle?_of_state d _ .deriveRequests hstate
    cases hcollection : d.collection with
    | none =>
        have hrun : runOn (d.perform .deriveRequests) w = ((.error .noCollection, d), w) := by
          simp only [perform, deriveRequests, hfree, hcollection]
          rfl
        have hbehind : d.state ≠ .empty := by rw [hstate]; exact nofun
        exact effect_of_run hrun (.collectionMissing hstate hbehind hcollection)
    | some c =>
        rcases hrequests : Simulation.analyzeAll c c.sequence with ⟨answer, ws⟩
        cases answer with
        | error failure =>
            have hrun : runOn (d.perform .deriveRequests) w =
                ((.error (.failure failure), { d with warnings := d.warnings ++ ws }), w) := by
              simp only [perform, deriveRequests, hfree, hcollection, hrequests]
              rfl
            obtain ⟨id, container, rfl⟩ := Simulation.analyzeAll_error (congrArg Prod.fst hrequests)
            exact effect_of_run hrun (.failed hstate fun _ _ => nofun)
        | ok requests =>
            have hrun : runOn (d.perform .deriveRequests) w =
                ((.ok (), { d with
                  requests
                  state := .requestsBuilt
                  warnings := d.warnings ++ ws }), w) := by
              simp only [perform, deriveRequests, hfree, hcollection, hrequests]
              rfl
            exact effect_of_run hrun (.requestsDerived rfl hstate hcollection hrequests)
  · have hrun : runOn (d.perform .deriveRequests) w =
        ((.error (.failure (.wrongState .deriveRequests d.state)), d), w) := by
      simp only [perform, deriveRequests, obstacle?_of_ne hstate]
      rfl
    exact effect_of_run hrun (.refused hstate)

theorem hasEffect_write (schedule : Schedule) (layout : Layout) (template : Option Path) :
    HasEffect W (.write schedule layout template) := by
  intro d w
  by_cases hstate : d.state = .requestsBuilt
  · cases hname : d.name? with
    | none =>
        have hrun : runOn (d.perform (.write schedule layout template)) w =
            ((.error .noCollection, d), w) := by
          simp only [perform, write, obstacle?_of_state hstate, hname]
          rfl
        have hbehind : d.state ≠ .empty := by rw [hstate]; exact nofun
        exact effect_of_run hrun (.collectionMissing hstate hbehind (collection_of_name? hname))
    | some name =>
        rcases hwrite : runOn (Simulation.writeAll schedule layout template name d.feeder
          d.requests) w with ⟨⟨answer, ws⟩, w'⟩
        cases answer with
        | error failure =>
            have hrun : runOn (d.perform (.write schedule layout template)) w =
                ((.error (.failure failure), { d with warnings := d.warnings ++ ws }), w') := by
              rw [perform, runOn_bind, runOn_write_error hstate hname hwrite]
              rfl
            exact effect_of_run hrun (.failed hstate (Simulation.writeAll_error (by rw [hwrite])))
        | ok report =>
            have hrun : runOn (d.perform (.write schedule layout template)) w =
                ((.ok (), { d with
                  state := .generated
                  warnings := d.warnings ++ ws }), w') := by
              rw [perform, runOn_bind, runOn_write_ok hstate hname hwrite]
              rfl
            exact effect_of_run hrun (.written rfl hstate)
  · have hrun : runOn (d.perform (.write schedule layout template)) w =
        ((.error (.failure (.wrongState .write d.state)), d), w) := by
      simp only [perform, write, obstacle?_of_ne hstate]
      rfl
    exact effect_of_run hrun (.refused hstate)

end

/-- Every step has one of the effects. -/
theorem effect (x : Step W) : Effect x x.answer x.after x.filesAfter := by
  obtain ⟨d, op, w⟩ := x
  cases op with
  | readEnvironment path => exact hasEffect_readEnvironment path d w
  | readCollection path => exact hasEffect_readCollection path d w
  | deriveFeeder => exact hasEffect_deriveFeeder d w
  | deriveRequests => exact hasEffect_deriveRequests d w
  | write schedule layout template => exact hasEffect_write schedule layout template d w

end Draft.Step

end LoadScenario
