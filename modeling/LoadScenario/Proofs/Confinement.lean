import LoadScenario.Proofs.DocumentReading
import LoadScenario.Proofs.LinkFree
import LoadScenario.Proofs.OutputNames
import LoadScenario.Proofs.OutputSteps

/-!
# Where writing a simulation goes

The names that a collection, an environment and the user give are any texts, and still writing a
simulation touches no file but its own: the scenario, the feeder if there are variables, and the
bodies that the collection has the content of, each of them directly in the directory of the bodies.
That holds whatever comes of the single operations, so it does not matter where writing fails.

A header can name the file of a body as well, and that name is taken as it is. Such a file is
looked at and never written for its own sake. But it can be the file of another body, and then it
is written for that one's.
-/

namespace LoadScenario

open Work LinkFree

/-- The files of a simulation that is made from a collection. -/
inductive Simulation.Owns (layout : Layout) (c : Collection) (feeder : Feeder) (name : String)
    (here : Location) : Location → Prop where
  | scenario : Owns layout c feeder name here ((layout.scenario name).destination here)
  | feeder (hfeeder : feeder.isEmpty = false) :
    Owns layout c feeder name here ((layout.feeder name).destination here)
  | body {r : RequestRecord} {raw : String} (hr : r ∈ c.requests)
    (hmode : r.bodyMode = some "raw") (hraw : r.rawBody = some raw) (hne : raw ≠ "") :
    Owns layout c feeder name here
      ((layout.bodiesOf name).destination here ++ [safeName r.name ++ bodySuffix])

/-- The files that are stored for requests: a body is if it has content. -/
inductive Simulation.Stores (layout : Layout) (feeder : Feeder) (rs : List Request) (name : String)
    (here : Location) : Location → Prop where
  | scenario : Stores layout feeder rs name here ((layout.scenario name).destination here)
  | feeder (hfeeder : feeder.isEmpty = false) :
    Stores layout feeder rs name here ((layout.feeder name).destination here)
  | body {r : Request} {b : Body} {content : String} (hr : r ∈ rs) (hb : r.body = some b)
    (hcontent : b.contentToWrite? = some content) :
    Stores layout feeder rs name here ((b.path layout.bodies name).destination here)

theorem Simulation.Stores.owns {c : Collection} {rs : List Request} (hanalyses : c.Analyses rs)
    {layout : Layout} {feeder : Feeder} {name : String} {here l : Location}
    (h : Stores layout feeder rs name here l) : Owns layout c feeder name here l := by
  cases h with
  | scenario => exact .scenario
  | feeder hfeeder => exact .feeder hfeeder
  | @body r b content hr hb hcontent =>
      obtain ⟨record, hrecord, -, hmode, hfile, raw, hraw, hne, -⟩ :=
        hanalyses.exists_raw hr hb hcontent
      rw [Body.destination_path (by rw [hfile]; exact record.isName_bodyFile), hfile]
      exact .body hrecord hmode hraw hne

section

variable {W : Type} [FileAccess (StateM W)] [LinkFree W] {c : Collection} {rs : List Request}

/-- A run of the output changes the files that it stores only. -/
theorem Output.spares_run (layout : Layout) (feeder : Feeder) (rs : List Request) (name : String)
    (schedule : Schedule) (template : String) (w : W) :
    toFileView.Spares (Simulation.Stores layout feeder rs name (toFileView.here w)) w
      (runOn ((Simulation.output layout template name feeder rs).run schedule :
        StateM W _) w).2 := by
  have hsound := Simulation.sound_output layout template name feeder rs
  have hsteps : (Simulation.output layout template name feeder rs).StepsKeep fun _ w' =>
      toFileView.Spares (Simulation.Stores layout feeder rs name (toFileView.here w)) w w' := by
    refine ⟨fun f hf performed w' h => ?_, fun g hg f hf performed w' h => ?_,
      fun e he performed w' h => ?_⟩
    · refine h.trans ((framing_spares.advance f w').mono ?_)
      rintro l rfl
      rw [hf, h.here]
      exact .scenario
    · refine h.trans ((framing_spares.advance f w').mono ?_)
      rintro l rfl
      obtain ⟨path, hpath, rfl⟩ := Option.map_eq_some_iff.mp hg
      rw [hf, h.here]
      rw [Simulation.feederPath?] at hpath
      split at hpath
      next => cases hpath
      next hfeeder =>
        cases hpath
        exact .feeder (Bool.eq_false_iff.mpr hfeeder)
    · cases e with
      | check request path => exact h.trans (spares_acceptsWrites path w').weaken
      | write path content =>
          obtain ⟨r, hr, b, hb, hcontent, rfl⟩ := Simulation.exists_body_of_write he
          refine h.trans ((spares_write _ content w').mono ?_)
          rintro l rfl
          rw [h.here]
          exact .body hr hb hcontent
  obtain ⟨_, -, hspares⟩ := hsteps.run hsound.1 hsound.2 (.refl _ w) schedule
  exact hspares

/-- Whether something is written is known once the directory of the bodies has been made and the
template has been read. -/
theorem Simulation.spares_stored_writeAll (layout : Layout) (feeder : Feeder) (rs : List Request)
    (name : String) (schedule : Schedule) (template : Option Path) (w : W) :
    toFileView.Spares (fun l => (∃ w₁ text w₂,
        runOn (makeDirectories (layout.bodiesOf name)) w = (.ok (), w₁) ∧
        runOn (readTemplate template) w₁ = (.ok text, w₂)) ∧
      Stores layout feeder rs name (toFileView.here w) l) w
      (runOn (writeAll schedule layout template name feeder rs : StateM W _) w).2 := by
  have hmade : toFileView.Spares (fun _ => False) w
      (runOn (makeDirectories (layout.bodiesOf name) : StateM W _) w).2 :=
    framing_spares.makeDirectories _ w
  obtain ⟨fault, w₁, hdirectory, -, hall⟩ | ⟨w₁, hdirectory, hlater⟩ :=
    writeAll_cases schedule layout template name feeder rs w
  · rw [hdirectory] at hmade
    rw [hall]
    exact hmade.weaken
  · rw [hdirectory] at hmade
    have hread : toFileView.Spares (fun _ => False) w₁
        (runOn (readTemplate template : StateM W _) w₁).2 := framing_spares.readTemplate template w₁
    obtain ⟨failure, w₂, htemplate, -, hall⟩ | ⟨text, w₂, htemplate, hall⟩ := hlater
    · rw [htemplate] at hread
      rw [hall]
      exact (hmade.trans hread).weaken
    · rw [htemplate] at hread
      have hbefore := hmade.trans hread
      have hrun := Output.spares_run layout feeder rs name schedule text w₂
      rw [hbefore.here] at hrun
      rw [hall]
      exact hbefore.weaken.trans (hrun.mono fun l hl => ⟨⟨w₁, text, w₂, hdirectory, htemplate⟩, hl⟩)

theorem Simulation.spares_writeAll (hanalyses : c.Analyses rs) (layout : Layout)
    (feeder : Feeder) (name : String) (schedule : Schedule) (template : Option Path) (w : W) :
    toFileView.Spares (Owns layout c feeder name (toFileView.here w)) w
      (runOn (writeAll schedule layout template name feeder rs : StateM W _) w).2 :=
  (spares_stored_writeAll layout feeder rs name schedule template w).mono fun _ hl =>
    hl.2.owns hanalyses

end

/-! ## Any simulation -/

section

variable {W : Type} [FileAccess (StateM W)]

theorem Simulation.isWord_of_name? {s : Simulation} {name : String} (h : s.name? = some name) :
    IsWord name ∧ name ≠ "" := by
  obtain ⟨given, -, rfl⟩ := Option.map_eq_some_iff.mp h
  exact ⟨isWord_className given, className_ne_empty given⟩

/-- Writing whatever simulation has been reached touches no file that is not its own, and its name
and those of its bodies are words. So a file that only a header names stays as it is. -/
theorem Simulation.write_confined [LinkFree W] (outputName : Option String)
    (events : List (Operation × W)) (schedule : Schedule) (layout : Layout)
    (template : Option Path) (w : W) :
    let s := (Simulation.new outputName).reached events
    let w' := (runOn (s.write schedule layout template) w).2
    (∀ name, s.name? = some name → IsWord name ∧ name ≠ "") ∧
      (∀ r : RequestRecord, IsWord (safeName r.name)) ∧
      (∀ l, toFileView.file? w' l ≠ toFileView.file? w l →
        ∃ c name, s.stage.collection? = some c ∧ s.name? = some name ∧
          Owns layout c s.feeder name (toFileView.here w) l) ∧
      ∀ c name, s.stage.collection? = some c → s.name? = some name →
        ∀ r ∈ s.requests, ∀ b, r.body = some b → b.content = none →
          let l := (b.path layout.bodies name).destination (toFileView.here w)
          ¬ Owns layout c s.feeder name (toFileView.here w) l →
            toFileView.file? w' l = toFileView.file? w l := by
  intro s w'
  have hconfined : ∀ l, toFileView.file? w' l ≠ toFileView.file? w l →
      ∃ c name, s.stage.collection? = some c ∧ s.name? = some name ∧
        Owns layout c s.feeder name (toFileView.here w) l := by
    intro l hchanged
    have hderived := derived_reached outputName events
    cases hstage : s.stage with
    | requestsBuilt c feeder rs =>
        rw [hstage] at hderived
        have hfeeder : s.feeder = feeder := by rw [Simulation.feeder, hstage]; rfl
        refine ⟨c, s.nameFor c, rfl, name?_of_collection? (by rw [hstage]; rfl), ?_⟩
        by_contra hforeign
        rw [hfeeder] at hforeign
        have hspares := spares_writeAll hderived.2 layout feeder (s.nameFor c) schedule template w
        rw [← (runOn_write_eq hstage schedule layout template w).2] at hspares
        exact hchanged (hspares.files l hforeign)
    | empty | loaded | feederBuilt | generated =>
        have hrefused : w' = w := by
          simp only [w', write, hstage]
          rfl
        exact absurd (by rw [hrefused]) hchanged
  refine ⟨fun name h => isWord_of_name? h, fun r => isWord_safeName r.name, hconfined, ?_⟩
  intro c name hc hname r hr b hb hcontent l hforeign
  by_contra hchanged
  obtain ⟨c', name', hc', hname', howns⟩ := hconfined l hchanged
  obtain rfl := Option.some.inj (hc.symm.trans hc')
  obtain rfl := Option.some.inj (hname.symm.trans hname')
  exact hforeign howns

end

/-! ## A header that names the file of another body -/

namespace Simulation

/-- The files of a user who has an export and has provided the file of a body. -/
def provided (exported : String) : FileSystem :=
  ⟨["home"], [(["home", "c.json"], .file (.text exported)),
    (["home", "out", "bodies", "Notes", "a_stringbody.txt"], .file (.text "photo")),
    (["home", "out", "bodies", "Notes"], .directory), (["home", "out", "bodies"], .directory),
    (["home", "out"], .directory)]⟩

def exportOf (c : Collection) : FileSystem := provided c.toJson.compact

/-- The operations that come before writing. -/
def runOf (c : Collection) : List (Operation × FileSystem) :=
  [(.readCollection ⟨"c.json"⟩, exportOf c), (.deriveFeeder, exportOf c),
    (.deriveRequests, exportOf c)]

theorem after_readCollection {exported : String} {c : Collection}
    (h : Collection.read? exported = some c) :
    Step.after ⟨Simulation.new none, .readCollection ⟨"c.json"⟩, provided exported⟩ =
      ⟨none, [], .loaded c, []⟩ := by
  have htext : runOn (readText ⟨"c.json"⟩) (provided exported) =
    (.ok exported, provided exported) := rfl
  simp only [Step.after, perform, readCollection, Simulation.new, runOn_bind, htext, h]
  rfl

/-- The export is read as the collection, so that nothing has to be parsed below. -/
theorem reached_runOf (c : Collection) : (Simulation.new none).reached (runOf c) =
    (Simulation.mk none [] (.loaded c) []).reached (runOf c).tail := by
  rw [runOf, reached, exportOf, after_readCollection c.read?_compact, List.tail_cons]

/-- A collection whose second request names the file of the first one's body in a header. -/
def sharing : Collection where
  name := "Notes"
  folders := []
  requests := [
    ⟨"1", "a", "POST", "/x", "", some "raw", some "1", none, none, none⟩,
    ⟨"2", "b", "POST", "/y", "Content-Disposition: attachment; filename=a_stringbody.txt",
      some "binary", none, none, none, none⟩]
  order := ["1", "2"]

/-- A file that a header names is overwritten if it is the file of another body. -/
theorem header_named_file_overwritten :
    let s := (Simulation.new none).reached (runOf sharing)
    let named : Body := ⟨"a_stringbody.txt", none⟩
    let l := (named.path uploadLayout.bodies "Notes").destination (exportOf sharing).here
    (∃ r ∈ s.requests, filenameFromHeaders? r.headers = some "a_stringbody.txt" ∧
      r.body = some named) ∧
    (exportOf sharing).file? l = some (.text "photo") ∧
      (runOn (s.write .plain uploadLayout none) (exportOf sharing)).2.file? l =
        some (.text "1") := by
  rw [reached_runOf]
  decide +kernel

/-- All files that this run touches are its own. -/
theorem write_confined_sharing :
    let s := (Simulation.new none).reached (runOf sharing)
    let fs := (runOn (s.write .plain uploadLayout none) (exportOf sharing)).2
    ∀ l, fs.file? l ≠ (exportOf sharing).file? l →
      ∃ c name, s.stage.collection? = some c ∧ s.name? = some name ∧
        Owns uploadLayout c s.feeder name (exportOf sharing).here l :=
  (write_confined none (runOf sharing) .plain uploadLayout none (exportOf sharing)).2.2.1

end Simulation

end LoadScenario
