import LoadScenario.Files.Tree
import LoadScenario.Proofs.DocumentReading
import LoadScenario.Proofs.SimulationStages

/-!
# Documents that are loaded

What loading a document comes to when it is known what the document is read as. Parsing never has to
be looked into for that: a document that has been written is read back (`Collection.read?_compact`),
so a run on written documents starts from a simulation that holds what they were written from.
-/

namespace LoadScenario.Simulation

section

variable {W : Type} [FileAccess (StateM W)] {s : Simulation} {path : Path} {w w' : W}
  {text : String}

theorem runOn_readEnvironment {e : Environment} (hstate : s.state = .empty ∨ s.state = .loaded)
    (htext : runOn (readText path) w = (.ok text, w')) (hread : Environment.read? text = some e) :
    runOn (s.readEnvironment (some path)) w = ((.ok (), { s with environment := e }), w') := by
  have hif : ¬ (s.state ≠ .empty ∧ s.state ≠ .loaded) := fun h => hstate.elim h.1 h.2
  simp only [readEnvironment, if_neg hif, runOn_bind, htext, hread]
  rfl

theorem runOn_readCollection {c : Collection} (hstage : s.stage = .empty)
    (htext : runOn (readText path) w = (.ok text, w')) (hread : Collection.read? text = some c) :
    runOn (s.readCollection path) w = ((.ok (), { s with stage := .loaded c }), w') := by
  simp only [readCollection, hstage, runOn_bind, htext, hread]
  rfl

/-- Loading an environment changes nothing else. -/
theorem readEnvironment_cases (s : Simulation) (path : Option Path) (w : W) :
    ∃ answer e, (runOn (s.readEnvironment path : StateM W _) w).1 =
      (answer, { s with environment := e }) := by
  by_cases hstate : s.state ≠ .empty ∧ s.state ≠ .loaded
  · simp only [readEnvironment, if_pos hstate]
    exact ⟨_, _, rfl⟩
  · cases path with
    | none =>
        simp only [readEnvironment, if_neg hstate]
        exact ⟨_, _, rfl⟩
    | some path =>
        simp only [readEnvironment, if_neg hstate, runOn_bind]
        split
        · exact ⟨_, _, rfl⟩
        · split
          · exact ⟨_, _, rfl⟩
          · exact ⟨_, _, rfl⟩

end

section

variable (s : Simulation) (fs : FileSystem)

end

/-- The inputs of a conversion in the current directory. -/
def inputs (c : Collection) (e : Environment) (template : String) : FileSystem :=
  ⟨["home"], [(["home", "c.json"], .file (.text c.toJson.compact)),
    (["home", "env.json"], .file (.text (Environment.toJson e).compact)),
    (["home", "t.scala"], .file (.text template))]⟩

/-- The operations that come before writing. -/
def loading (fs : FileSystem) : List (Operation × FileSystem) :=
  [(.readEnvironment (some ⟨"env.json"⟩), fs), (.readCollection ⟨"c.json"⟩, fs),
    (.deriveFeeder, fs), (.deriveRequests, fs)]

theorem reached_loading (outputName : Option String) (c : Collection) (e : Environment)
    (template : String) :
    (new outputName).reached (loading (inputs c e template)) =
      (Simulation.mk outputName e (.loaded c) []).reached
        ((loading (inputs c e template)).drop 2) := by
  have henvironment : runOn ((new outputName).readEnvironment (some ⟨"env.json"⟩))
      (inputs c e template) = ((.ok (), ⟨outputName, e, .empty, []⟩), inputs c e template) :=
    runOn_readEnvironment (.inl rfl) rfl (Environment.read?_compact e)
  have hcollection : runOn (readCollection ⟨outputName, e, .empty, []⟩ ⟨"c.json"⟩)
      (inputs c e template) = ((.ok (), ⟨outputName, e, .loaded c, []⟩), inputs c e template) :=
    runOn_readCollection rfl rfl c.read?_compact
  simp only [loading, reached, Step.after, perform, henvironment, hcollection, List.drop]

end LoadScenario.Simulation
