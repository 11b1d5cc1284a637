import LoadScenario.Proofs.BodyFiles
import LoadScenario.Proofs.SimulationStages

/-!
# No body is forgotten

A simulation that gets as far as writing its output leaves every body settled, whether the scenario
and the feeder could be written or not, and in whatever order the work on the bodies was done. Each
request whose file cannot be opened afterwards has one warning, and no other request has one. A body
that had content to be written is in its file, unless its write failed. Then its request has that
warning as well, but for one case: a write that breaks off can leave a file that can be opened and
holds something else, and nobody is told. And no task is left.

This takes that the bodies go to different files. The files are compared by their destinations. A
plain name always leads to its destination, because the directory of the bodies is there. A name
with slashes can lead through a directory that is missing and back again, and what it leads to then
depends on whether the directory is made before anybody asks. So the names with slashes have to lead
to their files from the beginning.
-/

namespace LoadScenario

open Work LinkFree

/-- The paths of the bodies of requests. -/
def bodyPaths (bodies : Path) (simulation : String) (rs : List Request) : List Path :=
  rs.filterMap fun r => r.body.map (·.path bodies simulation)

/-- The bodies go to different files, which are not those of the scenario and the feeder either. -/
structure DifferentFiles (layout : Layout) (simulation : String) (feeder : Feeder)
    (rs : List Request) (here : Location) : Prop where
  bodies : ((bodyPaths layout.bodies simulation rs).map (·.destination here)).Nodup
  scenario : ∀ p ∈ bodyPaths layout.bodies simulation rs,
    p.destination here ≠ (layout.scenario simulation).destination here
  feeder : ∀ f, Simulation.feederPath? layout simulation feeder = some f →
    ∀ p ∈ bodyPaths layout.bodies simulation rs, p.destination here ≠ f.destination here

section

variable {bodies : Path} {simulation : String} {rs : List Request} {here : Location}

theorem bodyPaths_eq : bodyPaths bodies simulation rs =
    (bodyJobs bodies simulation rs).map (·.path) := by
  rw [bodyPaths, bodyJobs, List.map_filterMap]
  refine List.filterMap_congr fun r _ => ?_
  cases r.body <;> rfl

theorem mem_bodyPaths {j : BodyJob} (hj : j ∈ bodyJobs bodies simulation rs) :
    j.path ∈ bodyPaths bodies simulation rs := by
  rw [bodyPaths_eq]
  exact List.mem_map_of_mem hj

theorem mem_bodyJobs {r : Request} (hr : r ∈ rs) {b : Body} (hb : r.body = some b) :
    ⟨r.name, b.path bodies simulation, b.contentToWrite?⟩ ∈ bodyJobs bodies simulation rs :=
  List.mem_filterMap.mpr ⟨r, hr, by rw [hb]; rfl⟩

theorem Body.contentToWrite?_eq_some {b : Body} {content : String}
    (hcontent : b.content = some content) (hne : content ≠ "") :
    b.contentToWrite? = some content := by
  have hfull : ¬ content.isEmpty = true := by rwa [String.isEmpty_iff]
  rw [Body.contentToWrite?, hcontent]
  exact if_neg hfull

theorem DifferentFiles.apart {layout : Layout} {feeder : Feeder}
    (h : DifferentFiles layout simulation feeder rs here) :
    Apart here (bodyJobs layout.bodies simulation rs) := by
  have hbodies := h.bodies
  rw [bodyPaths_eq, List.map_map] at hbodies
  exact hbodies

end

section

variable {W : Type} [FileAccess (StateM W)] {bodies : Path} {simulation : String}
  {rs : List Request}

/-- The warning that a request deserves if its file cannot be opened. -/
def Request.missing? (bodies : Path) (simulation : String) (w : W) (r : Request) :
    Option Warning :=
  r.body.bind fun b =>
    if (b.path bodies simulation).opensIn w then none
    else some (.missingFile r.name (b.path bodies simulation).text)

theorem filterMap_steps (jobs : List BodyJob) (w : W) :
    (jobs.flatMap BodyJob.steps).filterMap (BodyStep.missing? w) =
      jobs.filterMap fun j => j.check.missing? w := by
  have hwrite : ∀ j : BodyJob, j.write?.toList.filterMap (BodyStep.missing? w) = [] := by
    intro j
    rw [BodyJob.write?]
    cases j.content <;> rfl
  induction jobs with
  | nil => rfl
  | cons j jobs ih =>
      rw [List.flatMap_cons, List.filterMap_append, BodyJob.steps, List.filterMap_append, hwrite,
        List.nil_append, ih, List.filterMap_cons, List.filterMap_cons]
      cases j.check.missing? w <;> rfl

theorem filterMap_bodyJobs (w : W) :
    (bodyJobs bodies simulation rs).filterMap (fun j => j.check.missing? w) =
      rs.filterMap (Request.missing? bodies simulation w) := by
  rw [bodyJobs, List.filterMap_filterMap]
  refine List.filterMap_congr fun r _ => ?_
  rw [Request.missing?]
  cases r.body <;> rfl

end

section

variable {W : Type} [FileAccess (StateM W)] [SteadyFiles W] {bodies : Path} {simulation : String}
  {rs : List Request}

/-- The names of bodies that have a slash lead to their files. -/
def SlashedNamesLead (bodies : Path) (simulation : String) (rs : List Request) (w : W) : Prop :=
  ∀ r ∈ rs, ∀ b, r.body = some b → '/' ∈ b.filename.toList → (b.path bodies simulation).LeadsIn w

/-- The bodies of requests are settled, after some steps with their warnings and with what has
become of the tasks. -/
structure BodiesSettled (bodies : Path) (simulation : String) (rs : List Request)
    (performed : List (BodyStep × W)) (ws : List Warning) (t : Tracker BodyStep) (w : W) :
    Prop where
  warnings : ws.Perm (rs.filterMap (Request.missing? bodies simulation w))
  contents : ∀ r ∈ rs, ∀ b, r.body = some b → ∀ content, b.content = some content →
    content ≠ "" →
      let path := b.path bodies simulation
      toFileView.file? w (path.destination (toFileView.here w)) = some (.text content) ∨
        .missingFile r.name path.text ∈ ws ∨
        path.opensIn w ∧ ∃ w₁, (.write path content, w₁) ∈ performed ∧
          (runOn (FileAccess.write path content : StateM W _) w₁).1 ≠ .ok ()
  pending : t.pending = []
  isOver : ∀ h, t.isOver h

/-- What is known of the files while the work is being done is what there is to know when it is
over. -/
theorem Settling.bodiesSettled {here : Location} {performed : List (BodyStep × W)}
    {t : Tracker BodyStep} {ws : List Warning} {w : W}
    (h : Settling (bodyJobs bodies simulation rs) here performed t ws w)
    (hpending : t.pending = []) (hover : ∀ k, t.isOver k) :
    BodiesSettled bodies simulation rs performed ws t w := by
  have hperformed := h.work.perm_of_isOver hover
  have hdone : ∀ j ∈ bodyJobs bodies simulation rs, ∀ e ∈ j.steps,
      e ∈ performed.map Prod.fst := fun j hj e he =>
    hperformed.symm.subset (List.mem_flatMap.mpr ⟨j, hj, he⟩)
  refine ⟨?_, ?_, hpending, hover⟩
  · rw [h.warnings, ← filterMap_bodyJobs, ← filterMap_steps]
    exact hperformed.filterMap _
  · intro r hr b hb content hcontent hne path
    have hj : ⟨r.name, path, some content⟩ ∈ bodyJobs bodies simulation rs := by
      rw [← b.contentToWrite?_eq_some hcontent hne]
      exact mem_bodyJobs hr hb
    obtain ⟨⟨_, w₁⟩, hwrite, rfl⟩ := List.mem_map.mp (hdone _ hj _ List.mem_cons_self)
    by_cases hok : (runOn (FileAccess.write path content : StateM W _) w₁).1 = .ok ()
    · exact .inl (h.written _ hj content w₁ hwrite hok)
    · cases hopens : path.opensIn w with
      | true => exact .inr (.inr ⟨rfl, w₁, hwrite, hok⟩)
      | false =>
          refine .inr (.inl ?_)
          rw [h.warnings]
          refine List.mem_filterMap.mpr ⟨_, hdone _ hj _ (BodyJob.check_mem_steps _), ?_⟩
          rw [BodyJob.check, BodyStep.missing?, hopens]
          rfl

/-- The paths of the bodies lead to their files once the directory of the bodies has been made. -/
theorem SlashedNamesLead.leads_bodyJobs {layout : Layout} {w w₁ w₂ : W}
    (h : SlashedNamesLead layout.bodies simulation rs w₂)
    (hdirectory : runOn (makeDirectories (layout.bodiesOf simulation)) w = (.ok (), w₁))
    (hlater : Undisturbed (fun _ => False) w₁ w₂) :
    ∀ j ∈ bodyJobs layout.bodies simulation rs, j.path.LeadsIn w₂ := by
  intro j hj
  obtain ⟨r, hr, hbody⟩ := List.mem_filterMap.mp hj
  obtain ⟨b, hb, rfl⟩ := Option.map_eq_some_iff.mp hbody
  by_cases hslash : '/' ∈ b.filename.toList
  · exact h r hr b hb hslash
  · have hjoin := SteadyFiles.leads_join (layout.bodiesOf simulation) b.filename w hslash
    rw [hdirectory] at hjoin
    exact hlater.leads _ id (hjoin rfl)

theorem DifferentFiles.settling {layout : Layout} {feeder : Feeder} {w : W}
    (h : DifferentFiles layout simulation feeder rs (toFileView.here w))
    (hleads : ∀ j ∈ bodyJobs layout.bodies simulation rs, j.path.LeadsIn w) (template : String) :
    (Simulation.output layout template simulation feeder rs).Settling
      (bodyJobs layout.bodies simulation rs) (toFileView.here w) [] w := by
  refine ⟨fun j hj => h.scenario _ (mem_bodyPaths hj), fun f hf j hj => ?_, rfl, ?_, hleads,
    fun _ _ _ _ hmem => ?_, rfl⟩
  · obtain ⟨path, hpath, rfl⟩ := Option.map_eq_some_iff.mp hf
    exact h.feeder path hpath _ (mem_bodyPaths hj)
  · show Underway _ [] (bodyWork layout.bodies simulation rs)
    rw [bodyWork_eq]
    exact underway_bodyJobs _
  · cases hmem

end

/-- Once the directory is made and the template is read, everything depends on the output. -/
theorem Simulation.runOn_write {W : Type} [FileAccess (StateM W)] {s : Simulation}
    {c : Collection} {feeder : Feeder} {rs : List Request} (schedule : Schedule) {layout : Layout}
    {template : Option Path} {text : String} {w w₁ w₂ : W}
    (hstage : s.stage = .requestsBuilt c feeder rs)
    (hdirectory : runOn (makeDirectories (layout.bodiesOf (s.nameFor c))) w = (.ok (), w₁))
    (htemplate : runOn (Simulation.readTemplate template) w₁ = (.ok text, w₂)) :
    let written := runOn
      ((Simulation.output layout text (s.nameFor c) feeder rs).run schedule) w₂
    let result := runOn (s.write schedule layout template) w
    result.2 = written.2 ∧ result.1.2.warnings = s.warnings ++ written.1.warnings ∧
      ∀ failure, result.1.1 = .error failure → failure.IsOutput := by
  rcases hwritten : runOn ((Simulation.output layout text (s.nameFor c) feeder rs).run schedule)
    w₂ with ⟨o, w₃⟩
  cases hfailure : o.failure? with
  | some failure =>
      have hall : runOn (Simulation.writeAll schedule layout template (s.nameFor c) feeder rs) w =
          ((.error failure, o.warnings), w₃) := by
        simp only [Simulation.writeAll, runOn_bind, hdirectory, htemplate, hwritten, hfailure]
        rfl
      rw [Simulation.runOn_write_error hstage hall]
      refine ⟨rfl, rfl, fun failure' h => ?_⟩
      obtain rfl := Except.error.inj h
      have houtput := (Output.failsToWrite_output layout text (s.nameFor c) feeder rs).run
        schedule w₂
      rw [hwritten] at houtput
      exact houtput.isOutput hfailure
  | none =>
      obtain ⟨report, hall⟩ : ∃ report,
          runOn (Simulation.writeAll schedule layout template (s.nameFor c) feeder rs) w =
            ((.ok report, o.warnings), w₃) := by
        refine ⟨⟨s.nameFor c, layout.scenario (s.nameFor c),
          Simulation.feederPath? layout (s.nameFor c) feeder, rs.length⟩, ?_⟩
        simp only [Simulation.writeAll, runOn_bind, hdirectory, htemplate, hwritten, hfailure]
        rfl
      rw [Simulation.runOn_write_ok hstage hall]
      exact ⟨rfl, rfl, fun _ h => by cases h⟩

/-- Whatever comes of the scenario and the feeder, and in whatever order the work is done, writing
a simulation settles its bodies. -/
theorem Simulation.write_settles_bodies {W : Type} [FileAccess (StateM W)] [SteadyFiles W]
    (s : Simulation) (c : Collection) (feeder : Feeder) (rs : List Request) (schedule : Schedule)
    (layout : Layout) (template : Option Path) (text : String) (w w₁ w₂ : W)
    (hstage : s.stage = .requestsBuilt c feeder rs)
    (hdirectory : runOn (makeDirectories (layout.bodiesOf (s.nameFor c))) w = (.ok (), w₁))
    (htemplate : runOn (Simulation.readTemplate template) w₁ = (.ok text, w₂))
    (hfiles : DifferentFiles layout (s.nameFor c) feeder rs (toFileView.here w₂))
    (hslashed : SlashedNamesLead layout.bodies (s.nameFor c) rs w₂) :
    let o := Simulation.output layout text (s.nameFor c) feeder rs
    let written := runOn (o.run schedule) w₂
    let result := runOn (s.write schedule layout template) w
    result.1.2.warnings = s.warnings ++ written.1.warnings ∧
      BodiesSettled layout.bodies (s.nameFor c) rs (o.trace schedule w₂) written.1.warnings
        written.1.bodies result.2 ∧
      ∀ failure, result.1.1 = .error failure → failure.IsOutput := by
  obtain ⟨hresult, hwarnings, hfailure⟩ :=
    Simulation.runOn_write schedule hstage hdirectory htemplate
  have hlater : Undisturbed (fun _ => False) w₁ _ := framing_undisturbed.readTemplate template w₁
  rw [htemplate] at hlater
  have hleads := hslashed.leads_bodyJobs hdirectory hlater
  obtain ⟨hsettling, hpending, hover⟩ :=
    Output.settles_run hfiles.apart (hfiles.settling hleads text) schedule
  refine ⟨hwarnings, ?_, hfailure⟩
  rw [hresult]
  exact hsettling.bodies.bodiesSettled hpending hover

namespace Simulation

/-- Requests with bodies. Nobody has provided the file of the second one, and the third one goes to
a device. -/
def uploads : List Request := [
  ⟨"Send", "POST", "/a", none, .empty, some ⟨"send.json", some "1"⟩, .none⟩,
  ⟨"Upload", "POST", "/b", none, .empty, some ⟨"photo.png", none⟩, .none⟩,
  ⟨"Log", "POST", "/c", none, .empty, some ⟨"../../../../dev/full", some "2"⟩, .none⟩]

/-- A simulation with the requests that are about to be written. -/
def writing (rs : List Request) : Simulation :=
  ⟨some "Orders", [], .requestsBuilt ⟨"Orders", [], [], []⟩ ⟨.empty⟩ rs, []⟩

def uploadLayout : Layout := ⟨⟨"out/bodies"⟩, ⟨"out/data"⟩, ⟨"out/simulations"⟩⟩

/-- Directories with short names. -/
def nearLayout : Layout := ⟨⟨"o/b"⟩, ⟨"o/d"⟩, ⟨"o/s"⟩⟩

/-- Files beside a device that is always full. -/
def withDevice (nodes : List (Location × Node)) : Disk :=
  ⟨⟨["home"], nodes ++ [(["dev"], .directory), (["dev", "full"], .file (.text ""))]⟩,
    [(["dev", "full"], 0)]⟩

/-- Files where a file stands in the way of the directory of the scenario. -/
def crowded : Disk :=
  withDevice [(["home", "o"], .directory), (["home", "o", "s"], .file (.text ""))]

/-- The same files with the directory of the bodies. -/
def crowdedWithBodies : Disk :=
  withDevice [(["home", "o", "b", "Orders"], .directory),
    (["home", "o", "b"], .directory), (["home", "o"], .directory),
    (["home", "o", "s"], .file (.text ""))]

/-- A check in front of its write, and the scenario in between. -/
def disordered : Schedule := ⟨[.body 1, .body 2, .scenario, .body 0], false⟩

theorem uploads_differentFiles :
    DifferentFiles nearLayout "Orders" ⟨.empty⟩ uploads ["home"] :=
  ⟨by decide +kernel, by decide +kernel, nofun⟩

theorem uploads_slashedNamesLead :
    SlashedNamesLead nearLayout.bodies "Orders" uploads crowdedWithBodies := by
  have hdevice : crowdedWithBodies.files.read ⟨"o/b/Orders/../../../../dev/full"⟩ =
      .ok (.text "") := by decide +kernel
  have hslashed : ∀ r ∈ uploads, ∀ b ∈ r.body, '/' ∈ b.filename.toList →
      b.path nearLayout.bodies "Orders" = ⟨"o/b/Orders/../../../../dev/full"⟩ := by
    decide +kernel
  intro r hr b hb hname hmissing
  rw [hslashed r hr b hb hname] at hmissing
  change crowdedWithBodies.files.read _ = _ at hmissing
  rw [hdevice] at hmissing
  cases hmissing

theorem write_settles_uploads :
    (DifferentFiles nearLayout "Orders" ⟨.empty⟩ uploads ["home"] ∧
      SlashedNamesLead nearLayout.bodies "Orders" uploads crowdedWithBodies) ∧
      let o := output nearLayout Scenario.defaultTemplate "Orders" ⟨.empty⟩ uploads
      let written := runOn (o.run disordered) crowdedWithBodies
      let result := runOn ((writing uploads).write disordered nearLayout none) crowded
      result.1.2.warnings = (writing uploads).warnings ++ written.1.warnings ∧
        BodiesSettled nearLayout.bodies "Orders" uploads (o.trace disordered crowdedWithBodies)
          written.1.warnings written.1.bodies result.2 := by
  have hname : (writing uploads).nameFor ⟨"Orders", [], [], []⟩ = "Orders" := by decide +kernel
  have hdirectory : runOn (makeDirectories (nearLayout.bodiesOf "Orders")) crowded =
      (.ok (), crowdedWithBodies) := by decide +kernel
  have htemplate : runOn (readTemplate none) crowdedWithBodies =
      (.ok Scenario.defaultTemplate, crowdedWithBodies) := by rfl
  have hsettled := write_settles_bodies (writing uploads) ⟨"Orders", [], [], []⟩ ⟨.empty⟩ uploads
    disordered nearLayout none Scenario.defaultTemplate crowded crowdedWithBodies
    crowdedWithBodies rfl (by rw [hname]; exact hdirectory) htemplate
    (by rw [hname]; exact uploads_differentFiles) (by rw [hname]; exact uploads_slashedNamesLead)
  rw [hname] at hsettled
  exact ⟨⟨uploads_differentFiles, uploads_slashedNamesLead⟩, hsettled.1, hsettled.2.1⟩

/-- A request whose file is behind a directory that is made for the scenario. -/
def detour : List Request := [
  ⟨"Upload", "POST", "/b", none, .empty, some ⟨"../../s/../p.png", none⟩, .none⟩]

/-- Files in which somebody has provided the file. -/
def withPhoto : FileSystem :=
  ⟨["home"], [(["home", "o"], .directory), (["home", "o", "p.png"], .file (.text "1"))]⟩

/-- A write can break off with nobody being told, and the name of a file can lead nowhere at first
and to the file in the end. -/
theorem not_settled_by_itself :
    let full := runOn ((writing uploads).write disordered nearLayout none) (withDevice [])
    let late := runOn ((writing detour).write ⟨[.body 0], false⟩ nearLayout none) withPhoto
    let path := "o/b/Orders/../../s/../p.png"
    (DifferentFiles nearLayout "Orders" ⟨.empty⟩ uploads ["home"] ∧ full.1.1.toBool ∧
      full.1.2.warnings = [.missingFile "Upload" "o/b/Orders/photo.png"] ∧
      full.2.files.file? ["dev", "full"] ≠ some (.text "2")) ∧
    DifferentFiles nearLayout "Orders" ⟨.empty⟩ detour ["home"] ∧ late.1.1.toBool ∧
      late.1.2.warnings = [.missingFile "Upload" path] ∧ Path.opensIn ⟨path⟩ late.2 := by
  refine ⟨⟨uploads_differentFiles, ?_⟩, ⟨?_, ?_, nofun⟩, ?_⟩
  all_goals decide +kernel

end Simulation

end LoadScenario
