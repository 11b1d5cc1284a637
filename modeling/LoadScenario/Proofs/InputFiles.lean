import LoadScenario.Proofs.CommandCourse
import LoadScenario.Proofs.Confinement
import LoadScenario.Proofs.EnvironmentValues
import LoadScenario.Proofs.GeneratedFiles

/-!
# What becomes of the files that a conversion reads

A conversion reads its collection, its environment and its template and does not change them on its
own account, however it ends. But the names of the files that it stores come from the inputs, and
the directories are those that the user gives. If one of these files is an input, it is overwritten
like any other file that was there before, without a question.
-/

namespace LoadScenario

open LinkFree

namespace Simulation

section

variable {W : Type} [FileAccess (StateM W)] [LinkFree W] {changed : Location → Prop}

theorem spares_readEnvironment (s : Simulation) (path : Option Path) (w : W) :
    toFileView.Spares changed w (runOn (s.readEnvironment path : StateM W _) w).2 := by
  by_cases hstate : s.state ≠ .empty ∧ s.state ≠ .loaded
  · simp only [readEnvironment, if_pos hstate]
    exact .refl _ _
  · cases path with
    | none =>
        simp only [readEnvironment, if_neg hstate]
        exact .refl _ _
    | some path =>
        simp only [readEnvironment, if_neg hstate, runOn_bind]
        split
        · exact framing_spares.readText path w
        · split
          · exact framing_spares.readText path w
          · exact framing_spares.readText path w

theorem spares_readCollection (s : Simulation) (path : Path) (w : W) :
    toFileView.Spares changed w (runOn (s.readCollection path : StateM W _) w).2 := by
  rw [readCollection]
  split
  · rw [runOn_bind]
    split
    · exact framing_spares.readText path w
    · split
      · exact framing_spares.readText path w
      · exact framing_spares.readText path w
  · exact .refl _ _

theorem spares_prepare (s : Simulation) (collection : Path) (environment : Option Path) (w : W) :
    toFileView.Spares changed w (runOn (s.prepare collection environment : StateM W _) w).2 := by
  have henvironment : toFileView.Spares changed w _ := s.spares_readEnvironment environment w
  simp only [prepare, runOn_bind]
  generalize runOn (s.readEnvironment environment) w = read at *
  obtain ⟨⟨failure | _, s₁⟩, w₁⟩ := read
  · exact henvironment
  have hcollection : toFileView.Spares changed w₁ _ := s₁.spares_readCollection collection w₁
  simp only [runOn_bind]
  generalize runOn (s₁.readCollection collection) w₁ = read at *
  obtain ⟨⟨failure | _, s₂⟩, w₂⟩ := read
  · exact henvironment.trans hcollection
  rcases s₂.deriveFeeder with ⟨failure | _, s₃⟩
  · exact henvironment.trans hcollection
  · exact henvironment.trans hcollection

end

end Simulation

namespace Conversion

/-- The files that a conversion is given. -/
def inputs (c : Conversion) : List Path := c.collection :: c.environment.toList ++ c.template.toList

/-- The files that a conversion stores, given the files that loading leaves and the simulation that
it ends with. Nothing is stored if the requests could not be derived, the directory of the bodies
not made or the template not read. -/
inductive Stores {W : Type} [FileAccess (StateM W)] (c : Conversion) (loaded : W) (s : Simulation)
    (here l : Location) : Prop where
  | stored {name text : String} {w₁ w₂ : W}
    (hstate : s.state = .requestsBuilt ∨ s.state = .generated) (hname : s.name? = some name)
    (hmade : runOn (makeDirectories (c.layout.bodiesOf name)) loaded = (.ok (), w₁))
    (htemplate : runOn (Simulation.readTemplate c.template) w₁ = (.ok text, w₂))
    (hstores : Simulation.Stores c.layout s.feeder s.requests name here l) :
    Stores c loaded s here l

section

variable {W : Type} [FileAccess (StateM W)] [LinkFree W]

/-- A conversion changes no file that it does not store, however it ends. -/
theorem spares_steps (c : Conversion) (color : Bool) (schedule : Schedule) (w : W) :
    let loaded :=
      (runOn ((Simulation.new c.output).prepare c.collection c.environment : StateM W _) w).2
    let ran := runOn (c.steps color schedule) w
    toFileView.Spares (c.Stores loaded ran.1.2.2 (toFileView.here w)) w ran.2 := by
  intro loaded ran
  have hloaded : ∀ changed, toFileView.Spares changed w loaded :=
    fun _ => Simulation.spares_prepare _ _ _ w
  obtain ⟨failure, told, s, -, hran⟩ | ⟨s, coll, feeder, rs, -, hstage, hended, hfiles⟩ :=
    c.steps_prepared color schedule w
  · change ran = _ at hran
    rw [hran]
    exact hloaded _
  · -- What is stored is named after what was derived, and writing keeps that.
    have hwritten := Simulation.writtenFrom_write hstage schedule c.layout c.template loaded
    have hspares := Simulation.spares_stored_writeAll c.layout feeder rs (s.nameFor coll) schedule
      c.template loaded
    rw [← (Simulation.runOn_write_eq hstage schedule c.layout c.template loaded).2,
      (hloaded fun _ => False).here] at hspares
    rw [hended, hfiles]
    refine (hloaded _).trans (hspares.mono ?_)
    rintro l ⟨⟨w₂, text, w₃, hmade, htemplate⟩, hstores⟩
    refine .stored hwritten.state hwritten.named hmade htemplate ?_
    rw [hwritten.feeder_eq, hwritten.requests_eq]
    exact hstores

/-- A conversion leaves every input as it was that is no file which it stores, whatever the inputs
hold, wherever the output goes and however the conversion ends. -/
theorem inputs_kept (c : Conversion) (color : Bool) (schedule : Schedule) (w : W) :
    let loaded :=
      (runOn ((Simulation.new c.output).prepare c.collection c.environment : StateM W _) w).2
    let s := (runOn (c.steps color schedule) w).1.2.2
    let after := (runOn (c.run color schedule) w).2
    ∀ p ∈ c.inputs, ¬ c.Stores loaded s (toFileView.here w) (p.destination (toFileView.here w)) →
      toFileView.file? after (p.destination (toFileView.here w)) =
        toFileView.file? w (p.destination (toFileView.here w)) := by
  intro loaded s after p _ hforeign
  exact (c.spares_steps color schedule w).files _ hforeign

end

/-! ## A feeder that goes where the collection is -/

/-- The directory for feeders is the one where the inputs are. -/
def besideInputs : Layout := { Simulation.uploadLayout with data := ⟨"."⟩ }

/-- A conversion whose feeder file is the file of its collection. -/
def intoInput : Conversion := { orders with output := some "c", layout := besideInputs }

def intoInputReport : Report :=
  ⟨"c", ⟨"out/simulations/c.scala"⟩, some ⟨"./c.json"⟩, 1⟩

theorem writeAll_intoInput :
    (runOn (Simulation.writeAll .plain besideInputs none "c" tokenFeeder [order.request])
      (tokenFiles "s3cret")).1.1 = .ok intoInputReport := by
  decide +kernel

theorem file?_intoInput :
    (runOn (Simulation.writeAll .plain besideInputs none "c" tokenFeeder [order.request])
      (tokenFiles "s3cret")).2.file? ["home", "c.json"] = some (.text tokenFeeder.document) := by
  have hclass : className "c" = "c" := by decide +kernel
  have hword : IsWord "c" := by
    rw [← hclass]
    exact isWord_className "c"
  obtain ⟨-, -, -, -, hfed⟩ := Simulation.files_of_writeAll_ok
    (analyses_of_analyzeAll analyzeAll_ordering) hword writeAll_intoInput
  have hdestination : (besideInputs.feeder "c").destination ["home"] = ["home", "c.json"] := by
    decide +kernel
  have hfile := hfed rfl
  rw [FileSystem.toFileView_file?, FileSystem.toFileView_here] at hfile
  rw [← hdestination]
  exact hfile

theorem exists_steps_intoInput :
    ∃ told ws after, runOn (intoInput.steps false .plain) (tokenFiles "s3cret") =
      ((told, .ok (), ⟨some "c", [⟨"token", "s3cret", true⟩],
        .generated ordering tokenFeeder [order.request], [] ++ ws⟩), after) ∧
      after.file? ["home", "c.json"] = some (.text tokenFeeder.document) := by
  have hname : className ((some "c").getD ordering.name) = "c" := by decide +kernel
  obtain ⟨told, ws, hrun⟩ := @exists_steps_into "s3cret" "c" (some "c") besideInputs tokenFeeder
    .plain _ build_feeders.1 hname writeAll_intoInput
  exact ⟨told, ws, _, hrun, file?_intoInput⟩

theorem file?_tokenFiles (token : String) :
    (tokenFiles token).file? ["home", "c.json"] = some (.text ordering.toJson.compact) := by
  simp [tokenFiles, Simulation.inputs, FileSystem.file?, FileSystem.node?]

/-- The collection is overwritten with the feeder, and the conversion succeeds. -/
theorem collection_overwritten :
    let fs := tokenFiles "s3cret"
    let l := intoInput.collection.destination ["home"]
    let ran := runOn (intoInput.run false .plain) fs
    intoInput.collection ∈ intoInput.inputs ∧ ran.1.result = .ok () ∧
      fs.file? l = some (.text ordering.toJson.compact) ∧
      ran.2.file? l = some (.text tokenFeeder.document) ∧
      tokenFeeder.document ≠ ordering.toJson.compact := by
  have hdestination : intoInput.collection.destination ["home"] = ["home", "c.json"] := by
    decide +kernel
  obtain ⟨told, ws, after, hsteps, hfed⟩ := exists_steps_intoInput
  intro fs l ran
  have hran : ran = _ := run_of_steps hsteps
  have hl : l = _ := hdestination
  rw [hran, hl]
  exact ⟨.head _, rfl, file?_tokenFiles "s3cret", hfed, by decide +kernel⟩

theorem GoesTo.length_of_stores {layout : Layout} {rs : List Request} {scenario feeder : Location}
    {bodies : List Location} (h : GoesTo layout rs scenario feeder bodies)
    (hlength : ∀ l ∈ scenario :: feeder :: bodies, l.length ≠ 2) {f : Feeder} {l : Location}
    (hstores : Simulation.Stores layout f rs "Shop" ["home"] l) : l.length ≠ 2 := by
  refine hlength l ?_
  cases hstores with
  | scenario => exact List.mem_cons.mpr (.inl h.scenario)
  | feeder _ => exact List.mem_cons_of_mem _ (List.mem_cons.mpr (.inl h.feeder))
  | body hr hb _ =>
      refine List.mem_cons_of_mem _ (List.mem_cons_of_mem _ (h.mem_bodies ?_))
      exact List.mem_filterMap.mpr ⟨_, hr, by rw [hb]; rfl⟩

theorem length_of_order {f : Feeder} {l : Location}
    (h : Simulation.Stores Simulation.uploadLayout f [order.request] "Shop" ["home"] l) :
    l.length ≠ 2 :=
  goesTo_order.length_of_stores (by simp) h

theorem length_of_inputs : ∀ p ∈ orders.inputs, (p.destination ["home"]).length = 2 := by
  decide +kernel

/-- With an output in a directory of its own all inputs stay. -/
theorem inputs_kept_orders :
    ∀ p ∈ orders.inputs,
      toFileView.file? (runOn (orders.run false .plain) (tokenFiles "s3cret")).2
          (p.destination ["home"]) =
        toFileView.file? (tokenFiles "s3cret") (p.destination ["home"]) := by
  intro p hp
  obtain ⟨told, ws, after, hsteps⟩ := exists_steps_tokenFiles build_feeders.1 writeAll_orders.1
  have hended := congrArg (fun ran => ran.1.2.2) hsteps
  refine inputs_kept orders false .plain (tokenFiles "s3cret") p hp fun hstored => ?_
  rw [hended] at hstored
  obtain @⟨name, -, -, -, -, hname, -, -, hstores⟩ := hstored
  obtain rfl : "Shop" = name := Option.some.inj ((congrArg some className_shop).symm.trans hname)
  exact length_of_order hstores (length_of_inputs p hp)

end Conversion

end LoadScenario
