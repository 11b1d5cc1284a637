import LoadScenario.Proofs.Confinement

/-!
# Which bodies are kept

A body with content is written into a file that is named for its request, and different requests can
come to the same file name: by the same name, or by names that differ only in characters that no
file name keeps. Their bodies are then written into one file, in an order that nobody knows.

So the bodies are kept exactly if whoever shares a file shares its content. One direction needs no
run at all, since a file holds one thing. For the other one, every write that has been performed
leaves its content in its file, and whatever comes later either goes elsewhere or brings the same.
-/

namespace LoadScenario

open Work

/-- A request that a simulation sends with a raw body of its own. -/
structure Sends (c : Collection) (rs : List Request) (r : RequestRecord) (raw : String) : Prop where
  record : r ∈ c.requests
  request : r.request ∈ rs
  mode : r.bodyMode = some "raw"
  body : r.rawBody = some raw
  full : raw ≠ ""

/-- The path of the file of a body as the scenario names it. -/
def Layout.sent (layout : Layout) (simulation : String) (b : Body) : Path :=
  layout.bodies.join (Scenario.resource simulation b)

/-- Every raw body can be found where its request looks for it. -/
def BodiesKept (layout : Layout) (simulation : String) (c : Collection) (rs : List Request)
    (fs : FileSystem) : Prop :=
  ∀ r raw, Sends c rs r raw → ∃ b, r.request.body = some b ∧
    fs.read (layout.sent simulation b) = .ok (.text (translate raw))

/-- There is a file for every raw body. That is so once every write has succeeded, because a file
that has been written stays (`FileSystem.acceptsWrites_of_write`). -/
def BodiesThere (layout : Layout) (simulation : String) (c : Collection) (rs : List Request)
    (fs : FileSystem) : Prop :=
  ∀ r raw, Sends c rs r raw → ∀ b, r.request.body = some b →
    fs.acceptsWrites (layout.sent simulation b)

/-- Requests whose names come to the same file name have the same body. -/
def BodiesAgree (c : Collection) (rs : List Request) : Prop :=
  ∀ r raw, Sends c rs r raw → ∀ r' raw', Sends c rs r' raw' →
    safeName r.name = safeName r'.name → translate raw = translate raw'

/-! ## Paths -/

/-- Once a write has succeeded its file is there for good. -/
theorem FileSystem.acceptsWrites_of_write {changed : Location → Prop} {fs fs' : FileSystem}
    {p : Path} {s : String}
    (h : (runOn (FileAccess.write p s : StateM FileSystem _) fs).1 = .ok ())
    (hgrows : Grows changed (runOn (FileAccess.write p s : StateM FileSystem _) fs).2 fs') :
    fs'.acceptsWrites p := by
  have hwritten := grows_write fs p s
  obtain ⟨l, hl, hnode, hput⟩ := exists_put_of_write h
  have hfound : fs'.locate p = .ok l := by
    have hbefore := (hwritten.locate (by rw [hl]; simp)).trans hl
    rw [hgrows.locate (by rw [hbefore]; simp), hbefore]
  rw [hput] at hgrows
  obtain ⟨c, hc⟩ := hgrows.files l _ (node?_put_self hnode _)
  exact acceptsWrites_iff.mpr ⟨c, read_eq_ok_iff.mpr ⟨l, hfound, hc⟩⟩

namespace Path

/-- What stands in front of a name that is joined to a path. -/
def front (p : Path) : String :=
  if p.isEmpty || p.text.toList.getLast? = some '/' then p.text else p.text ++ "/"

theorem join_eq_front (p : Path) {name : String} (hname : isRooted name = false) :
    p.join name = ⟨p.front ++ name⟩ := by
  rw [join, if_neg (by rw [hname]; exact Bool.false_ne_true), front]
  split
  · rfl
  · rfl

theorem front_of_ends {s dir : String} (hdir : dir ≠ "") (hslash : '/' ∉ dir.toList) :
    front ⟨s ++ dir⟩ = s ++ dir ++ "/" := by
  have hfull : dir.toList ≠ [] := fun h => hdir (String.toList_eq_nil_iff.mp h)
  have hempty : Path.isEmpty ⟨s ++ dir⟩ = false := by
    rw [isEmpty, String.isEmpty_eq_false_iff, Ne, String.append_eq_empty_iff]
    exact fun h => hdir h.2
  have hlast : ¬ (s ++ dir).toList.getLast? = some '/' := by
    rw [String.toList_append, List.getLast?_append_of_ne_nil _ hfull]
    exact fun h => hslash (List.mem_of_getLast? h)
  rw [front, hempty, decide_eq_false hlast]
  rfl

/-- A path below a directory can be joined at once or part by part. -/
theorem join_join {p : Path} {dir file : String} (hdir : IsName dir) (hfile : IsName file) :
    p.join (dir ++ "/" ++ file) = (p.join dir).join file := by
  have hboth : isRooted (dir ++ "/" ++ file) = false := by
    rw [String.append_assoc, isRooted_append (String.isEmpty_eq_false_iff.mpr hdir.leads.1)]
    exact isRooted_of_not_mem hdir.slash
  rw [join_eq_front p hboth, join_eq_front p (isRooted_of_not_mem hdir.slash),
    join_eq_front _ (isRooted_of_not_mem hfile.slash), front_of_ends hdir.leads.1 hdir.slash]
  simp only [String.append_assoc]

end Path

theorem Layout.sent_eq (layout : Layout) {simulation : String} (hsimulation : IsName simulation)
    {b : Body} (hb : IsName b.filename) :
    layout.sent simulation b = b.path layout.bodies simulation :=
  Path.join_join hsimulation hb

theorem isName_nameFor (s : Simulation) (c : Collection) : IsName (s.nameFor c) :=
  (isWord_className _).isName (className_ne_empty _)

theorem getLast?_append {s ending : String} (h : ending.toList ≠ []) :
    (s ++ ending).toList.getLast? = ending.toList.getLast? := by
  rw [String.toList_append, List.getLast?_append_of_ne_nil _ h]

/-- The file of a body with content has an ending of its own. -/
theorem RequestRecord.bodyFile_ne (r : RequestRecord) {s ending : String}
    (hfull : ending.toList ≠ []) (hending : ending.toList.getLast? ≠ some 't') :
    r.bodyFile ≠ s ++ ending := by
  intro heq
  have hlast : (safeName r.name ++ bodySuffix).toList.getLast? = some 't' :=
    getLast?_append (by decide)
  rw [← bodyFile, heq, getLast?_append hfull] at hlast
  exact hending hlast

theorem RequestRecord.bodyFile_inj {r r' : RequestRecord} (h : r.bodyFile = r'.bodyFile) :
    safeName r.name = safeName r'.name := by
  have hchars := congrArg String.toList h
  rw [bodyFile, bodyFile, String.toList_append, String.toList_append] at hchars
  exact String.toList_inj.mp (List.append_cancel_right hchars)

/-! ## The writes of a run -/

theorem BodyJob.write_mem_steps {j : BodyJob} {w : BodyStep} (h : j.write? = some w) :
    w ∈ j.steps := by
  rw [steps, h]
  exact List.mem_append_left _ (List.mem_singleton_self _)

theorem eq_of_append_singleton_eq {l l' : Location} {s s' : String}
    (h : l ++ [s] = l' ++ [s']) : s = s' :=
  List.singleton_inj.mp (List.append_inj' h rfl).2

/-- The writes on bodies are those of the raw bodies. -/
theorem Simulation.write_mem_effects_iff {c : Collection} {rs : List Request}
    (hanalyses : c.Analyses rs) {layout : Layout} {template name : String} {feeder : Feeder}
    {path : Path} {content : String} :
    .write path content ∈ (output layout template name feeder rs).bodies.effects ↔
      ∃ r raw, Sends c rs r raw ∧ path = (layout.bodiesOf name).join r.bodyFile ∧
        content = translate raw := by
  constructor
  · intro h
    obtain ⟨request, hrequest, b, hb, hcontent, rfl⟩ := exists_body_of_write h
    obtain ⟨r, hr, rfl, hmode, hfile, raw, hraw, hne, rfl⟩ :=
      hanalyses.exists_raw hrequest hb hcontent
    refine ⟨r, raw, ⟨hr, hrequest, hmode, hraw, hne⟩, ?_, rfl⟩
    rw [Body.path, hfile]
    rfl
  · rintro ⟨r, raw, hsends, rfl, rfl⟩
    have hsteps := (underway_bodyJobs (bodyJobs layout.bodies name rs)).steps
    rw [← bodyWork_eq, List.nil_append] at hsteps
    have hbody := RequestRecord.body?_of_raw hsends.mode hsends.body
    have hcontent : Body.contentToWrite? ⟨r.bodyFile, some (translate raw)⟩ =
        some (translate raw) :=
      Body.contentToWrite?_eq_some_iff.mpr ⟨rfl, fun h =>
        hsends.full (translate_eq_empty_iff.mp h)⟩
    refine hsteps.symm.subset (List.mem_flatMap.mpr ⟨_, mem_bodyJobs hsends.request hbody, ?_⟩)
    refine BodyJob.write_mem_steps ?_
    rw [BodyJob.write?, hcontent, Option.map_some, Body.path, Layout.bodiesOf]

/-- How it stands with the files of some writes after some of them: what has been written is
there. -/
structure Holding (writes : Path → String → Prop) (here : Location) (performed : List BodyStep)
    (fs : FileSystem) : Prop where
  here : fs.here = here
  leads : ∀ path content, writes path content → fs.Leads path
  meant : ∀ path content, .write path content ∈ performed → writes path content
  holds : ∀ path content, .write path content ∈ performed → ∀ c, fs.read path = .ok c →
    c = .text content

namespace Holding

variable {writes : Path → String → Prop} {here : Location} {performed : List BodyStep}
  {fs fs' : FileSystem}

theorem grow (h : Holding writes here performed fs) {changed : Location → Prop}
    (hgrows : FileSystem.Grows changed fs fs')
    (hchanged : ∀ path content, writes path content → ¬ changed (path.destination here)) :
    Holding writes here performed fs' := by
  have hpath : ∀ path content, writes path content → ¬ changed (path.destination fs.here) := by
    rw [h.here]
    exact hchanged
  refine ⟨hgrows.here.trans h.here, fun path content hw => ?_, h.meant, ?_⟩
  · exact hgrows.leads (hpath path content hw) (h.leads path content hw)
  · intro path content hmem c hc
    have hw := h.meant path content hmem
    have hleads := h.leads path content hw
    exact h.holds path content hmem c ((hgrows.read_iff (hpath path content hw) hleads).mp hc)

/-- A write is held from then on, and the others still are: they go to other files, or the new one
brings what they have brought. -/
theorem write (h : Holding writes here performed fs)
    (hsame : ∀ path content path' content', writes path content → writes path' content' →
      path.destination here = path'.destination here → path = path' ∧ content = content')
    {path : Path} {content : String} (hw : writes path content) :
    Holding writes here (performed ++ [.write path content])
      (runOn (FileAccess.write path content : StateM FileSystem _) fs).2 := by
  have hgrows := FileSystem.grows_write fs path content
  have hmem : ∀ path' content',
      BodyStep.write path' content' ∈ performed ++ [.write path content] →
        writes path' content' := by
    intro path' content' hmem
    rcases List.mem_append.mp hmem with hold | hnew
    · exact h.meant path' content' hold
    · cases List.mem_singleton.mp hnew
      exact hw
  refine ⟨hgrows.here.trans h.here, fun path' content' hw' => ?_, hmem, ?_⟩
  · by_cases heq : path'.destination here = path.destination here
    · obtain ⟨rfl, -⟩ := hsame _ _ _ _ hw' hw heq
      exact FileSystem.leads_write (h.leads _ _ hw) content
    · rw [← h.here] at heq
      exact hgrows.leads heq (h.leads _ _ hw')
  · intro path' content' hmem' c hc
    have hw' := hmem path' content' hmem'
    by_cases heq : path'.destination here = path.destination here
    · obtain ⟨rfl, rfl⟩ := hsame _ _ _ _ hw' hw heq
      exact FileSystem.eq_of_read_write hc
    · rcases List.mem_append.mp hmem' with hold | hnew
      · rw [← h.here] at heq
        have hbefore := (hgrows.read_iff heq (h.leads _ _ hw')).mp hc
        exact h.holds path' content' hold c hbefore
      · cases List.mem_singleton.mp hnew
        exact absurd rfl heq

theorem check (h : Holding writes here performed fs) (request : String) (path : Path) :
    Holding writes here (performed ++ [.check request path]) fs := by
  have hmem : ∀ path' content',
      BodyStep.write path' content' ∈ performed ++ [.check request path] →
        .write path' content' ∈ performed := by
    intro path' content' hmem
    rcases List.mem_append.mp hmem with hold | hnew
    · exact hold
    · cases List.mem_singleton.mp hnew
  exact ⟨h.here, h.leads, fun path' content' hw => h.meant _ _ (hmem _ _ hw),
    fun path' content' hw => h.holds _ _ (hmem _ _ hw)⟩

end Holding

theorem IsWord.ending {s : String} (h : IsWord s) (layout : Layout) (here : Location) :
    (layout.scenario s).destination here =
        layout.simulations.destination here ++ [s ++ ".scala"] ∧
      (layout.feeder s).destination here = layout.data.destination here ++ [s ++ ".json"] :=
  ⟨Path.destination_join (h.isName_append (by decide) (by decide)) here,
    Path.destination_join (h.isName_append (by decide) (by decide)) here⟩

section

variable {c : Collection} {rs : List Request} {layout : Layout} {feeder : Feeder} {name : String}

namespace Simulation

/-- A write of a run goes directly into the directory of the bodies. -/
theorem destination_of_write (hanalyses : c.Analyses rs) {template : String} {path : Path}
    {content : String} (here : Location)
    (h : .write path content ∈ (output layout template name feeder rs).bodies.effects) :
    ∃ r raw, Sends c rs r raw ∧ path = (layout.bodiesOf name).join r.bodyFile ∧
      content = translate raw ∧
      path.destination here = (layout.bodiesOf name).destination here ++ [r.bodyFile] := by
  obtain ⟨r, raw, hsends, rfl, rfl⟩ := (write_mem_effects_iff hanalyses).mp h
  exact ⟨r, raw, hsends, rfl, rfl, Path.destination_join r.isName_bodyFile here⟩

/-- The scenario and the feeder are no files of bodies. -/
theorem write_elsewhere (hanalyses : c.Analyses rs) {template : String} {path : Path}
    {content : String} {here dir : Location} (ending : String) (hfull : ending.toList ≠ [])
    (hending : ending.toList.getLast? ≠ some 't')
    (h : .write path content ∈ (output layout template name feeder rs).bodies.effects) :
    path.destination here ≠ dir ++ [name ++ ending] := by
  obtain ⟨r, raw, -, -, -, hdestination⟩ := destination_of_write hanalyses here h
  rw [hdestination]
  intro heq
  exact r.bodyFile_ne hfull hending (eq_of_append_singleton_eq heq)

/-- Writes into one file bring the same, if the requests that share a file agree. -/
theorem write_same (hanalyses : c.Analyses rs) (hagree : BodiesAgree c rs) {template : String}
    {here : Location} {path path' : Path} {content content' : String}
    (h : .write path content ∈ (output layout template name feeder rs).bodies.effects)
    (h' : .write path' content' ∈ (output layout template name feeder rs).bodies.effects)
    (heq : path.destination here = path'.destination here) :
    path = path' ∧ content = content' := by
  obtain ⟨r, raw, hr, rfl, rfl, hdestination⟩ := destination_of_write hanalyses here h
  obtain ⟨r', raw', hr', rfl, rfl, hdestination'⟩ := destination_of_write hanalyses here h'
  rw [hdestination, hdestination'] at heq
  have hfiles := eq_of_append_singleton_eq heq
  exact ⟨by rw [hfiles], hagree r raw hr r' raw' hr' (RequestRecord.bodyFile_inj hfiles)⟩

theorem stepsKeep_holding (hanalyses : c.Analyses rs) (hagree : BodiesAgree c rs)
    (hname : IsWord name) (template : String) (here : Location) :
    let o := output layout template name feeder rs
    o.StepsKeep (Holding (fun path content => .write path content ∈ o.bodies.effects) here) := by
  refine ⟨fun f hf performed fs h => ?_, fun g hg f hf performed fs h => ?_,
    fun e he performed fs h => ?_⟩
  · have hgrows := FileSystem.framing_grows.advance f fs
    rw [hf, h.here, output, OutputFile.of, (hname.ending layout here).1] at hgrows
    exact h.grow hgrows fun path content =>
      write_elsewhere hanalyses ".scala" (by decide) (by decide)
  · have hgrows := FileSystem.framing_grows.advance f fs
    obtain ⟨file, hfile, rfl⟩ := Option.map_eq_some_iff.mp hg
    rw [feederPath?] at hfile
    split at hfile
    next => cases hfile
    next =>
      cases hfile
      rw [hf, h.here, OutputFile.of, (hname.ending layout here).2] at hgrows
      exact h.grow hgrows fun path content =>
        write_elsewhere hanalyses ".json" (by decide) (by decide)
  · cases e with
    | write path content => exact h.write (fun _ _ _ _ => write_same hanalyses hagree) he
    | check request path => exact h.check request path

/-- Each raw body is held at the end of a run, if the requests that share a file agree. -/
theorem holding_run (hanalyses : c.Analyses rs) (hagree : BodiesAgree c rs)
    (hname : IsWord name) {before fs : FileSystem}
    (hdirectory : runOn (makeDirectories (layout.bodiesOf name)) before = (.ok (), fs))
    (feeder : Feeder) (schedule : Schedule) (template : String) :
    let o := output layout template name feeder rs
    ∃ performed, performed.Perm o.bodies.effects ∧
      Holding (fun path content => .write path content ∈ o.bodies.effects) fs.here performed
        (runOn (o.run schedule : StateM FileSystem _) fs).2 := by
  intro o
  have hbegin : Holding (fun path content => .write path content ∈ o.bodies.effects) fs.here []
      fs := by
    refine ⟨rfl, fun path content hw => ?_, nofun, nofun⟩
    obtain ⟨r, _, _, rfl, _⟩ := (write_mem_effects_iff hanalyses).mp hw
    have hleads := FileSystem.leads_join_makeDirectories (by rw [hdirectory])
      r.isName_bodyFile.slash
    rw [hdirectory] at hleads
    exact hleads
  have hsound := sound_output layout template name feeder rs
  exact (stepsKeep_holding hanalyses hagree hname template fs.here).run hsound.1 hsound.2 hbegin
    schedule

end Simulation

end

/-! ## Writing a simulation -/

namespace Simulation

/-- Only a simulation whose requests have been derived can be written. -/
theorem requestsBuilt_of_write {W : Type} [FileAccess (StateM W)] {s : Simulation}
    {schedule : Schedule} {layout : Layout} {template : Option Path} {w : W} {report : Report}
    (h : (runOn (s.write schedule layout template) w).1.1 = .ok report) :
    ∃ c feeder, s.stage = .requestsBuilt c feeder s.requests := by
  cases hstage : s.stage with
  | requestsBuilt c feeder rs =>
      rw [Simulation.requests, hstage]
      exact ⟨c, feeder, rfl⟩
  | empty | loaded | feederBuilt | generated =>
      simp only [write, hstage] at h
      cases h

/-- Writing that succeeds has made the directory of the bodies and run the output. -/
theorem exists_run_of_writeAll {schedule : Schedule} {layout : Layout} {template : Option Path}
    {name : String} {feeder : Feeder} {rs : List Request} {fs : FileSystem} {report : Report}
    (h : (runOn (writeAll schedule layout template name feeder rs) fs).1.1 = .ok report) :
    ∃ fs₁ text, runOn (makeDirectories (layout.bodiesOf name)) fs = (.ok (), fs₁) ∧
      (runOn (writeAll schedule layout template name feeder rs) fs).2 =
        (runOn ((output layout text name feeder rs).run schedule) fs₁).2 := by
  obtain ⟨fs₁, text, fs₂, hdirectory, htemplate, -, -, hall⟩ := run_of_writeAll_ok h
  obtain rfl : fs₁ = fs₂ := eq_of_readTemplate htemplate
  exact ⟨fs₁, text, hdirectory, by rw [hall]⟩

/-- Bodies that are kept and share a file are the same. -/
theorem bodiesAgree_of_kept {layout : Layout} {name : String} {c : Collection}
    {rs : List Request} {fs : FileSystem} (h : BodiesKept layout name c rs fs) :
    BodiesAgree c rs := by
  intro r raw hr r' raw' hr' hsame
  obtain ⟨b, hb, hread⟩ := h r raw hr
  obtain ⟨b', hb', hread'⟩ := h r' raw' hr'
  have hfile : b.filename = b'.filename := by
    rw [RequestRecord.request, RequestRecord.body?_of_raw hr.mode hr.body] at hb
    rw [RequestRecord.request, RequestRecord.body?_of_raw hr'.mode hr'.body] at hb'
    cases hb
    cases hb'
    rw [RequestRecord.bodyFile, RequestRecord.bodyFile, hsame]
  rw [Layout.sent, Scenario.resource, hfile] at hread
  exact Content.text.inj (Except.ok.inj (hread.symm.trans hread'))

/-- A simulation that has been written keeps its raw bodies exactly if those of requests with the
same file name agree, in whatever order the work has been done. -/
theorem bodies_kept_iff {outputName : Option String} {events : List (Operation × FileSystem)}
    {s : Simulation} (hs : s = (Simulation.new outputName).reached events) {c : Collection}
    (hc : s.stage.collection? = some c) (schedule : Schedule) (layout : Layout)
    (template : Option Path) (fs : FileSystem) {report : Report}
    (hok : (runOn (s.write schedule layout template) fs).1.1 = .ok report)
    (hthere : BodiesThere layout (s.nameFor c) c s.requests
      (runOn (s.write schedule layout template) fs).2) :
    BodiesKept layout (s.nameFor c) c s.requests
      (runOn (s.write schedule layout template) fs).2 ↔ BodiesAgree c s.requests := by
  refine ⟨bodiesAgree_of_kept, fun hagree r raw hr => ?_⟩
  obtain ⟨c', feeder, hstage⟩ := requestsBuilt_of_write hok
  have hc' : some c' = some c := by rw [← hc, hstage]; rfl
  obtain rfl := Option.some.inj hc'
  have hanalyses : c'.Analyses s.requests := by
    have hderived := derived_reached outputName events
    rw [← hs, hstage] at hderived
    exact hderived.2
  have hwrite := runOn_write_eq hstage schedule layout template fs
  rw [hwrite.1] at hok
  rw [hwrite.2] at hthere ⊢
  obtain ⟨fs₁, text, hdirectory, hrun⟩ := exists_run_of_writeAll hok
  rw [hrun] at hthere ⊢
  have hname : IsWord (s.nameFor c') := isWord_className _
  obtain ⟨performed, hperformed, hholding⟩ :=
    holding_run hanalyses hagree hname hdirectory feeder schedule text
  have hbody : r.request.body = some ⟨r.bodyFile, some (translate raw)⟩ :=
    RequestRecord.body?_of_raw hr.mode hr.body
  have hpath : layout.sent (s.nameFor c') ⟨r.bodyFile, some (translate raw)⟩ =
      (layout.bodiesOf (s.nameFor c')).join r.bodyFile :=
    layout.sent_eq (isName_nameFor s c') r.isName_bodyFile
  obtain ⟨content, hread⟩ := FileSystem.acceptsWrites_iff.mp (hthere r raw hr _ hbody)
  rw [hpath] at hread
  have hdone := hperformed.symm.subset
    ((write_mem_effects_iff hanalyses).mpr ⟨r, raw, hr, rfl, rfl⟩)
  refine ⟨_, hbody, ?_⟩
  rw [hpath, hread, hholding.holds _ _ hdone content hread]

/-! ## A body that is kept and one that is lost -/

theorem bodiesThere_of_forall {layout : Layout} {name : String} {c : Collection}
    {rs : List Request} {fs : FileSystem} (h : ∀ r ∈ c.requests, r.bodyMode = some "raw" →
      fs.acceptsWrites (layout.sent name ⟨r.bodyFile, none⟩)) :
    BodiesThere layout name c rs fs := by
  intro r raw hr b hb
  rw [RequestRecord.request, RequestRecord.body?_of_raw hr.mode hr.body] at hb
  cases hb
  exact h r hr.record hr.mode

/-- Two requests share a file and have the same body, and a third one has a file of its own. -/
def agreeing : Collection where
  name := "Notes"
  folders := []
  requests := [
    ⟨"1", "a b", "POST", "/x", "", some "raw", some "1", none, none, none⟩,
    ⟨"2", "a_b", "POST", "/y", "", some "raw", some "1", none, none, none⟩,
    ⟨"3", "c", "POST", "/z", "", some "raw", some "2", none, none, none⟩]
  order := ["1", "2", "3"]

theorem bodiesAgree_agreeing (rs : List Request) : BodiesAgree agreeing rs := by
  have hsends : ∀ r raw, Sends agreeing rs r raw →
      safeName r.name = "a_b" ∧ raw = "1" ∨ safeName r.name = "c" ∧ raw = "2" := by
    intro r raw hr
    have hrecord := hr.record
    have hbody := hr.body
    simp only [agreeing, List.mem_cons, List.not_mem_nil, or_false] at hrecord
    rcases hrecord with rfl | rfl | rfl
    · exact .inl ⟨by decide +kernel, (Option.some.inj hbody).symm⟩
    · exact .inl ⟨by decide +kernel, (Option.some.inj hbody).symm⟩
    · exact .inr ⟨by decide +kernel, (Option.some.inj hbody).symm⟩
  have hne : "a_b" ≠ "c" := by decide
  intro r raw hr r' raw' hr' hsame
  rcases hsends r raw hr with ⟨hname, rfl⟩ | ⟨hname, rfl⟩ <;>
    rcases hsends r' raw' hr' with ⟨hname', rfl⟩ | ⟨hname', rfl⟩
  · rfl
  · exact absurd (hname.symm.trans (hsame.trans hname')) hne
  · exact absurd (hname'.symm.trans (hsame.symm.trans hname)) hne
  · rfl

theorem bodies_kept_agreeing :
    let s := (Simulation.new none).reached (runOf agreeing)
    let fs := (runOn (s.write .plain nearLayout none) (exportOf agreeing)).2
    BodiesKept nearLayout (s.nameFor agreeing) agreeing s.requests fs := by
  intro s fs
  have hs : s = (Simulation.new none).reached (runOf agreeing) := rfl
  have hfs : fs = (runOn (s.write .plain nearLayout none) (exportOf agreeing)).2 := rfl
  clear_value fs s
  have hrun : s.stage.collection? = some agreeing ∧
      (runOn (s.write .plain nearLayout none) (exportOf agreeing)).1.1 =
        .ok ⟨"Notes", ⟨"o/s/Notes.scala"⟩, none, 3⟩ ∧
      ∀ r ∈ agreeing.requests, r.bodyMode = some "raw" →
        fs.acceptsWrites (nearLayout.sent (s.nameFor agreeing) ⟨r.bodyFile, none⟩) := by
    rw [hfs, hs, reached_runOf]
    decide +kernel
  obtain ⟨hc, hok, hthere⟩ := hrun
  rw [hfs] at hthere ⊢
  exact (bodies_kept_iff hs hc .plain nearLayout none (exportOf agreeing) hok
    (bodiesThere_of_forall hthere)).mpr (bodiesAgree_agreeing _)

/-- A collection with two requests whose names come to one file name. -/
def clashing : Collection where
  name := "Notes"
  folders := []
  requests := [
    ⟨"1", "a b", "POST", "/x", "", some "raw", some "1", none, none, none⟩,
    ⟨"2", "a_b", "POST", "/y", "", some "raw", some "2", none, none, none⟩]
  order := ["1", "2"]

/-- All files are written and there, and still not every request finds its body. -/
theorem body_lost_clashing :
    let s := (Simulation.new none).reached (runOf clashing)
    let result := runOn (s.write .plain uploadLayout none) (exportOf clashing)
    result.1.1 = .ok ⟨"Notes", ⟨"out/simulations/Notes.scala"⟩, none, 2⟩ ∧
      BodiesThere uploadLayout (s.nameFor clashing) clashing s.requests result.2 ∧
      ¬ BodiesKept uploadLayout (s.nameFor clashing) clashing s.requests result.2 := by
  intro s result
  have hs : s = (Simulation.new none).reached (runOf clashing) := rfl
  have hresult : result = runOn (s.write .plain uploadLayout none) (exportOf clashing) := rfl
  clear_value result s
  have hrun : result.1.1 = .ok ⟨"Notes", ⟨"out/simulations/Notes.scala"⟩, none, 2⟩ ∧
      s.requests = clashing.requests.map (·.request) ∧
      ∀ r ∈ clashing.requests, r.bodyMode = some "raw" →
        result.2.acceptsWrites (uploadLayout.sent (s.nameFor clashing) ⟨r.bodyFile, none⟩) := by
    rw [hresult, hs, reached_runOf]
    decide +kernel
  obtain ⟨hok, hrequests, hthere⟩ := hrun
  refine ⟨hok, bodiesThere_of_forall hthere, fun hkept => ?_⟩
  have hsends : ∀ r ∈ clashing.requests, ∀ raw, r.bodyMode = some "raw" →
      r.rawBody = some raw → raw ≠ "" → Sends clashing s.requests r raw := by
    intro r hr raw hmode hraw hne
    exact ⟨hr, by rw [hrequests]; exact List.mem_map_of_mem hr, hmode, hraw, hne⟩
  have hagree := bodiesAgree_of_kept hkept _ _
    (hsends _ List.mem_cons_self "1" rfl rfl (by decide)) _ _
    (hsends _ (List.mem_cons_of_mem _ List.mem_cons_self) "2" rfl rfl (by decide))
    (by decide +kernel)
  exact absurd hagree (by decide +kernel)

end Simulation

end LoadScenario
