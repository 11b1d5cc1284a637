import LoadScenario.Command.Conversion
import LoadScenario.Proofs.Confinement
import LoadScenario.Proofs.LoadedDocuments

/-!
# How a command goes

Listing and converting begin alike: the environment and the collection are loaded, and the feeder
and the requests are derived. That is `Simulation.prepare`, and `Prepared` lists what it can come
to. A listing is over then, and a conversion goes on and writes if nothing has failed. What is
proved about whole commands starts from here and does not open them again.
-/

namespace LoadScenario

variable {W : Type} [FileAccess (StateM W)]

namespace Simulation

/-- Loads the documents and derives what has to be written. -/
def prepare (s : Simulation) (collection : Path) (environment : Option Path) :
    StateM W (Except Failure Unit × Simulation) := do
  let (answer, s) ← s.readEnvironment environment
  if let .error failure := answer then
    return (.error failure, s)
  let (answer, s) ← s.readCollection collection
  if let .error failure := answer then
    return (.error failure, s)
  let (answer, s) := s.deriveFeeder
  if let .error failure := answer then
    return (.error failure, s)
  return s.deriveRequests

/-- What preparing can come to: a document is not loaded, the variables form a cycle, an id is that
of no request, or all is derived. -/
inductive Prepared (s : Simulation) : Except Failure Unit → Simulation → Prop
  | unloaded {failure : Failure} {e : Environment} :
    Prepared s (.error failure) { s with environment := e }
  | cyclic {failure : Failure} {e : Environment} {c : Collection} :
    Prepared s (.error failure) { s with environment := e, stage := .loaded c }
  | unlisted {failure : Failure} {e : Environment} {c : Collection} {feeder : Feeder}
      {ws : List Warning} (hanalyze : analyzeAll c c.sequence = (.error failure, ws)) :
    Prepared s (.error failure)
      { s with environment := e, stage := .feederBuilt c feeder, warnings := s.warnings ++ ws }
  | derived {e : Environment} {c : Collection} {feeder : Feeder} {rs : List Request}
      {ws : List Warning} (hanalyze : analyzeAll c c.sequence = (.ok rs, ws)) :
    Prepared s (.ok ())
      { s with environment := e, stage := .requestsBuilt c feeder rs, warnings := s.warnings ++ ws }

theorem Prepared.exists_stage {s s' : Simulation} (h : s.Prepared (.ok ()) s') :
    ∃ c feeder rs, s'.stage = .requestsBuilt c feeder rs := by
  cases h with
  | @derived _ c feeder rs _ _ => exact ⟨c, feeder, rs, rfl⟩

theorem readCollection_cases (s : Simulation) (path : Path) (w : W) :
    (∃ failure, (runOn (s.readCollection path : StateM W _) w).1 = (.error failure, s)) ∨
      ∃ c, (runOn (s.readCollection path : StateM W _) w).1 =
        (.ok (), { s with stage := .loaded c })
    := by
  cases hstage : s.stage with
  | empty =>
      rcases htext : runOn (readText path : StateM W _) w with ⟨fault | text, w'⟩
      · refine .inl ⟨.collectionUnreadable path fault, ?_⟩
        simp only [readCollection, hstage, runOn_bind, htext]
        rfl
      · cases hread : Collection.read? text with
        | none =>
            refine .inl ⟨.collectionMalformed, ?_⟩
            simp only [readCollection, hstage, runOn_bind, htext, hread]
            rfl
        | some c =>
            refine .inr ⟨c, ?_⟩
            simp only [readCollection, hstage, runOn_bind, htext, hread]
            rfl
  | loaded | feederBuilt | requestsBuilt | generated =>
      refine .inl ⟨.wrongState .readCollection s.state, ?_⟩
      simp only [readCollection, hstage]
      rfl

/-- What is derived from a collection that is loaded. -/
theorem prepared_derive (s : Simulation) (e : Environment) (c : Collection) :
    let loaded : Simulation := { s with environment := e, stage := .loaded c }
    (∃ failure, loaded.deriveFeeder = (.error failure, loaded) ∧
      Prepared s (.error failure) loaded) ∨
    ∃ built, loaded.deriveFeeder = (.ok (), built) ∧
      Prepared s built.deriveRequests.1 built.deriveRequests.2 := by
  intro loaded
  cases hbuild : Feeder.build e with
  | error names =>
      refine .inl ⟨.cyclicVariables names, ?_, .cyclic⟩
      simp only [deriveFeeder, loaded, hbuild]
  | ok feeder =>
      refine .inr ⟨{ s with environment := e, stage := .feederBuilt c feeder }, ?_, ?_⟩
      · simp only [deriveFeeder, loaded, hbuild]
      · rcases hanalyze : analyzeAll c c.sequence with ⟨failure | rs, ws⟩
        · simp only [deriveRequests, hanalyze]
          exact .unlisted hanalyze
        · simp only [deriveRequests, hanalyze]
          exact .derived hanalyze

theorem prepared (s : Simulation) (collection : Path) (environment : Option Path) (w : W) :
    let ended := (runOn (s.prepare collection environment : StateM W _) w).1
    Prepared s ended.1 ended.2 := by
  obtain ⟨answer, e, henvironment⟩ := s.readEnvironment_cases environment w
  generalize hs₁ : runOn (s.readEnvironment environment) w = read at henvironment
  obtain ⟨read, w₁⟩ := read
  obtain rfl : read = (answer, { s with environment := e }) := henvironment
  simp only [prepare, runOn_bind, hs₁]
  obtain failure | _ := answer
  · exact .unloaded
  simp only [runOn_bind]
  obtain ⟨failure, hcollection⟩ | ⟨c, hcollection⟩ :=
    readCollection_cases { s with environment := e } collection w₁
  · simp only [hcollection]
    exact .unloaded
  · simp only [hcollection]
    obtain ⟨failure, hfeeder, hprepared⟩ | ⟨built, hfeeder, hprepared⟩ := prepared_derive s e c
    · simp only [hfeeder]
      exact hprepared
    · simp only [hfeeder]
      exact hprepared

/-- Preparing succeeds if and only if each of its four steps does. -/
theorem runOn_prepare_eq_ok_iff {s s' : Simulation} {collection : Path} {environment : Option Path}
    {w w' : W} :
    runOn (s.prepare collection environment) w = ((.ok (), s'), w') ↔
      ∃ s₁ s₂ s₃ w₁, runOn (s.readEnvironment environment) w = ((.ok (), s₁), w₁) ∧
        runOn (s₁.readCollection collection) w₁ = ((.ok (), s₂), w') ∧
        s₂.deriveFeeder = (.ok (), s₃) ∧ s₃.deriveRequests = (.ok (), s') := by
  constructor
  · intro h
    rw [prepare, runOn_bind] at h
    rcases henvironment : runOn (s.readEnvironment environment) w with ⟨⟨failure | _, s₁⟩, w₁⟩
    · rw [henvironment] at h
      cases h
    simp only [henvironment, runOn_bind] at h
    rcases hcollection : runOn (s₁.readCollection collection) w₁ with ⟨⟨failure | _, s₂⟩, w₂⟩
    · rw [hcollection] at h
      cases h
    simp only [hcollection] at h
    rcases hfeeder : s₂.deriveFeeder with ⟨failure | _, s₃⟩
    · rw [hfeeder] at h
      cases h
    simp only [hfeeder] at h
    obtain ⟨hrequests, rfl⟩ := Prod.mk.inj h
    exact ⟨s₁, s₂, s₃, w₁, rfl, hcollection, hfeeder, hrequests⟩
  · rintro ⟨s₁, s₂, s₃, w₁, henvironment, hcollection, hfeeder, hrequests⟩
    simp only [prepare, runOn_bind, henvironment, hcollection, hfeeder, hrequests]
    rfl

/-- What a simulation holds after writing, whether that succeeds or not. -/
structure WrittenFrom (s : Simulation) (c : Collection) (feeder : Feeder) (rs : List Request)
    (found : List Warning) (s' : Simulation) : Prop where
  stage : s'.stage = .requestsBuilt c feeder rs ∨ s'.stage = .generated c feeder rs
  outputName : s'.outputName = s.outputName
  warnings : s'.warnings = s.warnings ++ found

theorem writtenFrom_write {s : Simulation} {c : Collection} {feeder : Feeder} {rs : List Request}
    (hstage : s.stage = .requestsBuilt c feeder rs) (schedule : Schedule) (layout : Layout)
    (template : Option Path) (w : W) :
    s.WrittenFrom c feeder rs
      (runOn (writeAll schedule layout template (s.nameFor c) feeder rs : StateM W _) w).1.2
      (runOn (s.write schedule layout template) w).1.2 := by
  rcases hall : runOn (writeAll schedule layout template (s.nameFor c) feeder rs) w
    with ⟨⟨failure | report, found⟩, w'⟩
  · rw [runOn_write_error hstage hall]
    exact ⟨.inl hstage, rfl, rfl⟩
  · rw [runOn_write_ok hstage hall]
    exact ⟨.inr rfl, rfl, rfl⟩

section

variable {s s' : Simulation} {c : Collection} {feeder : Feeder} {rs : List Request}
  {found : List Warning}

theorem WrittenFrom.state (h : s.WrittenFrom c feeder rs found s') :
    s'.state = .requestsBuilt ∨ s'.state = .generated :=
  h.stage.imp state_of_stage state_of_stage

theorem WrittenFrom.feeder_eq (h : s.WrittenFrom c feeder rs found s') : s'.feeder = feeder := by
  rw [Simulation.feeder]
  rcases h.stage with hstage | hstage <;> rw [hstage] <;> rfl

theorem WrittenFrom.requests_eq (h : s.WrittenFrom c feeder rs found s') : s'.requests = rs := by
  rw [Simulation.requests]
  rcases h.stage with hstage | hstage <;> rw [hstage] <;> rfl

theorem WrittenFrom.named (h : s.WrittenFrom c feeder rs found s') :
    s'.name? = some (s.nameFor c) := by
  have hcollection : s'.stage.collection? = some c := by
    rcases h.stage with hstage | hstage <;> rw [hstage] <;> rfl
  rw [name?_of_collection? hcollection, nameFor, nameFor, h.outputName]

end

end Simulation

theorem Listing.prepare_eq (collection : Path) (environment : Option Path) :
    (Listing.prepare collection environment : StateM W _) =
      (Simulation.new none).prepare collection environment := rfl

namespace Conversion

/-- The lines that tell of loading. -/
def loadingLines (c : Conversion) (color : Bool) : List String :=
  c.environment.toList.map (doneLine color "Loaded environment") ++
    [doneLine color "Loaded collection" c.collection]

theorem run_of_steps {c : Conversion} {color : Bool} {schedule : Schedule} {w w' : W}
    {told : List String} {answer : Except Failure Unit} {s : Simulation}
    (h : runOn (c.steps color schedule) w = ((told, answer, s), w')) :
    runOn (c.run color schedule) w =
      (⟨printed (told ++ warningLines color s.warnings), answer⟩, w') := by
  rw [run, runOn_bind, h, runOn_pure]

/-- A conversion ends with what it cannot prepare, or it writes what it has prepared. -/
theorem steps_cases (c : Conversion) (color : Bool) (schedule : Schedule) (w : W) :
    let prepared :=
      runOn ((Simulation.new c.output).prepare c.collection c.environment : StateM W _) w
    (∃ failure told, prepared.1.1 = .error failure ∧ told <+: c.loadingLines color ∧
      runOn (c.steps color schedule) w = ((told, .error failure, prepared.1.2), prepared.2)) ∨
    prepared.1.1 = .ok () ∧
      let written := runOn (prepared.1.2.write schedule c.layout c.template) prepared.2
      runOn (c.steps color schedule) w =
        ((c.loadingLines color ++
            written.1.1.toOption.toList.flatMap (reportLines color c.layout),
          written.1.1.map fun _ => (), written.1.2), written.2) := by
  simp only [Simulation.prepare, steps, runOn_bind]
  rcases runOn ((Simulation.new c.output).readEnvironment c.environment) w
    with ⟨⟨failure | _, s₁⟩, w₁⟩
  · exact .inl ⟨failure, [], rfl, List.nil_prefix, rfl⟩
  simp only [runOn_bind]
  rcases runOn (s₁.readCollection c.collection) w₁ with ⟨⟨failure | _, s₂⟩, w₂⟩
  · exact .inl ⟨failure, _, rfl, List.prefix_append _ _, rfl⟩
  rcases s₂.deriveFeeder with ⟨failure | _, s₃⟩
  · exact .inl ⟨failure, _, rfl, List.prefix_rfl, rfl⟩
  simp only
  rcases s₃.deriveRequests with ⟨failure | _, s₄⟩
  · exact .inl ⟨failure, _, rfl, List.prefix_rfl, rfl⟩
  simp only [runOn_bind]
  refine .inr ⟨rfl, ?_⟩
  simp only [runOn_pure]
  rcases runOn (s₄.write schedule c.layout c.template) w₂ with ⟨⟨failure | report, s₅⟩, w₃⟩
  · simp [loadingLines, Except.toOption, Except.map, runOn_pure]
  · simp [loadingLines, Except.toOption, Except.map, runOn_pure]

theorem steps_of_prepare {c : Conversion} {schedule : Schedule}
    {w w₁ after : W} {s₁ s : Simulation} {report : Report}
    (hprepare : runOn ((Simulation.new c.output).prepare c.collection c.environment) w =
      ((.ok (), s₁), w₁))
    (hwrite : runOn (s₁.write schedule c.layout c.template) w₁ = ((.ok report, s), after))
    (color : Bool) :
    runOn (c.steps color schedule) w =
      ((c.loadingLines color ++ reportLines color c.layout report, .ok (), s), after) := by
  have hcases := c.steps_cases color schedule w
  rw [hprepare] at hcases
  obtain ⟨failure, told, hfailed, -⟩ | ⟨-, hran⟩ := hcases
  · cases hfailed
  · rw [hran, hwrite]
    simp [Except.toOption, Except.map]

/-- However a conversion ends, it leaves what it could not prepare or what writing has left of what
it has prepared. -/
theorem steps_prepared (c : Conversion) (color : Bool) (schedule : Schedule) (w : W) :
    let loaded :=
      (runOn ((Simulation.new c.output).prepare c.collection c.environment : StateM W _) w).2
    let ran := runOn (c.steps color schedule) w
    (∃ failure told s, (Simulation.new c.output).Prepared (.error failure) s ∧
      ran = ((told, .error failure, s), loaded)) ∨
    ∃ s coll feeder rs, (Simulation.new c.output).Prepared (.ok ()) s ∧
      s.stage = .requestsBuilt coll feeder rs ∧
      let written := runOn (s.write schedule c.layout c.template) loaded
      ran.1.2.2 = written.1.2 ∧ ran.2 = written.2 := by
  have hprepared := (Simulation.new c.output).prepared c.collection c.environment w
  have hcases := c.steps_cases color schedule w
  generalize runOn ((Simulation.new c.output).prepare c.collection c.environment : StateM W _) w =
    prepared at *
  obtain ⟨⟨answer, s⟩, w₁⟩ := prepared
  obtain ⟨failure, told, hfailed, -, hran⟩ | ⟨hok, hran⟩ := hcases
  · obtain rfl : answer = .error failure := hfailed
    exact .inl ⟨failure, told, s, hprepared, hran⟩
  · obtain rfl : answer = .ok () := hok
    obtain ⟨coll, feeder, rs, hstage⟩ := hprepared.exists_stage
    exact .inr ⟨s, coll, feeder, rs, hprepared, hstage, congrArg (·.1.2.2) hran,
      congrArg (·.2) hran⟩

end Conversion

end LoadScenario
