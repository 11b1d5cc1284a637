import LoadScenario.Proofs.KeptBodies
import LoadScenario.Proofs.LoadedDocuments
import LoadScenario.Proofs.TemplateFilling
import LoadScenario.Proofs.WrittenFiles

/-!
# What a report promises

A simulation that has been written answers with a report, and the report is taken for what is there:
the scenario file, the feeder file if there are variables, and the number of requests. The same
decision, whether there are variables, is made for the report, for the feed step in the scenario and
for the file, so they agree. And the files of the report are still there at the end, since the
scenario, the feeder and the bodies end differently and none of them overwrites another.

The scenario is the template that has been read, with the three kinds of tokens replaced one after
the other. Where the template is made of texts and tokens that is the same as replacing each token
on its own. Otherwise a name can complete a token, and the feed step goes where it does.
-/

namespace LoadScenario

open Work LinkFree Scenario

namespace Text

/-- A text in which something has been put in the place of the first occurrence of a word; the same
text if there is none. -/
inductive FirstReplaced (w r : List Char) : List Char → List Char → Prop where
  | found (before behind : List Char)
    (hfirst : ∀ a b, before ++ (w ++ behind) = a ++ (w ++ b) → before.length ≤ a.length) :
    FirstReplaced w r (before ++ (w ++ behind)) (before ++ (r ++ behind))
  | absent {cs : List Char} (habsent : ¬ w <:+: cs) : FirstReplaced w r cs cs

theorem firstReplaced_replaceFirst {w : List Char} (hw : w ≠ []) (r cs : List Char) :
    FirstReplaced w r cs (replaceFirst w r cs) := by
  induction cs with
  | nil => exact .absent fun h => hw (List.infix_nil.mp h)
  | cons c cs ih =>
      rw [replaceFirst]
      split
      next rest hfound =>
        rw [expect_eq_some_iff.mp hfound]
        exact .found [] rest fun _ _ _ => Nat.zero_le _
      next hnone =>
        have hhere : ∀ rest, c :: cs ≠ w ++ rest := by
          intro rest heq
          rw [expect_eq_some_iff.mpr heq] at hnone
          cases hnone
        generalize replaceFirst w r cs = replaced at ih
        cases ih with
        | found before behind hfirst =>
            refine .found (c :: before) behind fun a b heq => ?_
            cases a with
            | nil => exact absurd heq (hhere b)
            | cons d a =>
                have hlength := hfirst a b (List.cons.inj heq).2
                simp only [List.length_cons]
                omega
        | absent habsent =>
            refine .absent fun hthere => ?_
            obtain hprefix | hthere := List.infix_cons_iff.mp hthere
            · obtain ⟨rest, hrest⟩ := hprefix
              exact hhere rest hrest.symm
            · exact habsent hthere

end Text

open Text

/-! ## Writing that succeeds -/

namespace Simulation

theorem feeder_output {layout : Layout} {template simulation : String} {feeder : Feeder}
    {rs : List Request} {g : OutputFile}
    (hg : (output layout template simulation feeder rs).feeder = some g) :
    feeder.isEmpty = false ∧ g = .of (layout.feeder simulation) feeder.document := by
  obtain ⟨path, hpath, rfl⟩ := Option.map_eq_some_iff.mp hg
  rw [feederPath?] at hpath
  split at hpath
  next => cases hpath
  next hfull =>
    cases hpath
    exact ⟨Bool.eq_false_iff.mpr hfull, rfl⟩

theorem started_output {layout : Layout} {template simulation : String} {feeder : Feeder}
    {rs : List Request} {g : OutputFile}
    (hg : (output layout template simulation feeder rs).feeder = some g) :
    g.progress = .started := by
  obtain ⟨-, rfl⟩ := feeder_output hg
  rfl

/-- The files of an output have different endings, and the endings say what a file is. -/
theorem distinct_output {c : Collection} {rs : List Request} (hanalyses : c.Analyses rs)
    {simulation : String} (hname : IsWord simulation) (layout : Layout) (template : String)
    (feeder : Feeder) (here : Location) :
    (output layout template simulation feeder rs).Distinct here := by
  obtain ⟨hscenario, hfeeder⟩ := hname.ending layout here
  refine ⟨fun g hg heq => ?_, fun path content hwrite => ?_, fun path content hwrite g hg => ?_⟩
  · obtain ⟨-, rfl⟩ := feeder_output hg
    change (layout.feeder simulation).destination here =
      (layout.scenario simulation).destination here at heq
    rw [hscenario, hfeeder] at heq
    have hends := congrArg String.toList (eq_of_append_singleton_eq heq)
    rw [String.toList_append, String.toList_append] at hends
    exact absurd (List.append_cancel_left hends) (by decide)
  · show _ ≠ (layout.scenario simulation).destination here
    rw [hscenario]
    exact write_elsewhere hanalyses ".scala" (by decide) (by decide) hwrite
  · obtain ⟨-, rfl⟩ := feeder_output hg
    show _ ≠ (layout.feeder simulation).destination here
    rw [hfeeder]
    exact write_elsewhere hanalyses ".json" (by decide) (by decide) hwrite

/-- Without variables the file of the feeder is no file of the simulation. -/
theorem not_owns_feeder {c : Collection} {feeder : Feeder} (hempty : feeder.isEmpty)
    {simulation : String} (hname : IsWord simulation) (layout : Layout) (here : Location) :
    ¬ Owns layout c feeder simulation here ((layout.feeder simulation).destination here) := by
  obtain ⟨hscenario, hfeeder⟩ := hname.ending layout here
  intro howns
  generalize hl : (layout.feeder simulation).destination here = l at howns
  cases howns with
  | scenario =>
      rw [hscenario, hfeeder] at hl
      have hends := congrArg String.toList (eq_of_append_singleton_eq hl)
      rw [String.toList_append, String.toList_append] at hends
      exact absurd (List.append_cancel_left hends) (by decide)
  | feeder hfull =>
      rw [hempty] at hfull
      cases hfull
  | @body r _ _ _ _ _ =>
      rw [hfeeder] at hl
      exact r.bodyFile_ne (by decide) (by decide) (eq_of_append_singleton_eq hl).symm

section

variable {W : Type} [FileAccess (StateM W)] [StoresText W]

/-- What there is once a simulation has been written under some name. -/
structure Written (s : Simulation) (layout : Layout) (template : Option Path) (w after : W)
    (name text : String) : Prop where
  named : s.name? = some name
  template : (runOn (readTemplate template : StateM W _)
    (runOn (makeDirectories (layout.bodiesOf name) : StateM W _) w).2).1 = .ok text
  scenario : toFileView.file? after ((layout.scenario name).destination (toFileView.here w)) =
    some (.text (scenarioText text name s.feeder s.requests))
  feeder : s.feeder.isEmpty = false →
    toFileView.file? after ((layout.feeder name).destination (toFileView.here w)) =
      some (.text s.feeder.document)
  unfed : s.feeder.isEmpty →
    toFileView.file? after ((layout.feeder name).destination (toFileView.here w)) =
      toFileView.file? w ((layout.feeder name).destination (toFileView.here w))

/-- Writing that succeeds leaves the scenario and the feeder. -/
theorem files_of_writeAll_ok {c : Collection} {rs : List Request} (hanalyses : c.Analyses rs)
    {schedule : Schedule} {layout : Layout} {template : Option Path} {name : String}
    (hname : IsWord name) {feeder : Feeder} {w : W} {report : Report}
    (hok : (runOn (writeAll schedule layout template name feeder rs) w).1.1 = .ok report) :
    ∃ text, report = ⟨name, layout.scenario name, feederPath? layout name feeder, rs.length⟩ ∧
      (runOn (readTemplate template : StateM W _)
        (runOn (makeDirectories (layout.bodiesOf name) : StateM W _) w).2).1 = .ok text ∧
      let after := (runOn (writeAll schedule layout template name feeder rs : StateM W _) w).2
      toFileView.file? after ((layout.scenario name).destination (toFileView.here w)) =
          some (.text (scenarioText text name feeder rs)) ∧
        (feeder.isEmpty = false →
          toFileView.file? after ((layout.feeder name).destination (toFileView.here w)) =
            some (.text feeder.document)) := by
  obtain ⟨w₁, text, w₂, hdirectory, htemplate, hreport, hfailure, hall⟩ := run_of_writeAll_ok hok
  have hmade : toFileView.Spares (fun _ => False) w
      (runOn (makeDirectories (layout.bodiesOf name) : StateM W _) w).2 :=
    framing_spares.makeDirectories _ w
  have hread : toFileView.Spares (fun _ => False) w₁
      (runOn (readTemplate template : StateM W _) w₁).2 := framing_spares.readTemplate template w₁
  rw [hdirectory] at hmade
  rw [htemplate] at hread
  have hhere : toFileView.here w₂ = toFileView.here w := hread.here.trans hmade.here
  have hsound := sound_output layout text name feeder rs
  have hdistinct := distinct_output hanalyses hname layout text feeder (toFileView.here w)
  obtain ⟨hscenario, hfed⟩ := Output.files_run hdistinct hsound.1 hsound.2 (by rw [output])
    (fun _ => started_output) schedule hhere hfailure
  rw [hall, hdirectory]
  refine ⟨text, hreport, by rw [htemplate], hscenario, fun hfull => ?_⟩
  refine hfed (layout.feeder name) feeder.document ?_
  rw [output, feederPath?, hfull, if_neg Bool.false_ne_true, Option.map_some]

theorem written_of_write_ok (outputName : Option String) (events : List (Operation × W))
    {schedule : Schedule} {layout : Layout} {template : Option Path} {w : W} {report : Report}
    (hok : (runOn (((new outputName).reached events).write schedule layout template) w).1.1 =
      .ok report) :
    let s := (new outputName).reached events
    ∃ name text, report = ⟨name, layout.scenario name, feederPath? layout name s.feeder,
        s.requests.length⟩ ∧
      s.Written layout template w (runOn (s.write schedule layout template) w).2 name text := by
  intro s
  have hs : s = (new outputName).reached events := rfl
  have hderived := derived_reached outputName events
  rw [← hs] at hok hderived
  clear_value s
  obtain ⟨c, feeder, hstage⟩ := requestsBuilt_of_write hok
  obtain rfl : s.feeder = feeder := by rw [Simulation.feeder, hstage]; rfl
  have hanalyses : c.Analyses s.requests := by
    rw [hstage] at hderived
    exact hderived.2
  have hname : IsWord (s.nameFor c) := isWord_className _
  obtain ⟨hanswer, hafter⟩ := runOn_write_eq hstage schedule layout template w
  rw [hanswer] at hok
  rw [hafter]
  obtain ⟨text, hreport, htemplate, hscenario, hfed⟩ := files_of_writeAll_ok hanalyses hname hok
  have hspares := spares_writeAll hanalyses layout s.feeder (s.nameFor c) schedule template w
  exact ⟨s.nameFor c, text, hreport, name?_of_collection? (by rw [hstage]; rfl), htemplate,
    hscenario, hfed, fun hempty => hspares.files _ (not_owns_feeder hempty hname layout _)⟩

/-! ## The scenario -/

/-- The name stands in the place of each of its tokens, then the feed step in the place of the first
token for it, then the requests in the place of the first token for them. -/
def Fills (template simulation feed requests scenario : String) : Prop :=
  ∃ fed, FirstReplaced feederToken feed.toList
      (replaceWord nameToken simulation.toList template.toList) fed ∧
    FirstReplaced requestsToken requests.toList fed scenario.toList

/-- The feed step that goes with a feeder file in a directory of feeders: it names that file. -/
inductive FeedsFrom (data : Path) : Option Path → String → Prop where
  | nothing : FeedsFrom data none ""
  | file (name : String) : FeedsFrom data (some (data.join name))
    (indent requestDepth ++ ".feed(jsonFile(" ++ literal name ++ ").circular)\n")

omit [FileAccess (StateM W)] [StoresText W] in
theorem fills_scenarioText (template simulation : String) (feeder : Feeder) (rs : List Request) :
    Fills template simulation (feedStep simulation feeder)
      (String.join (rs.map (block simulation requestDepth)))
      (scenarioText template simulation feeder rs) := by
  refine ⟨_, firstReplaced_replaceFirst (Token.source_ne_nil .feeder) _ _, ?_⟩
  rw [scenarioText, fill, String.toList_ofList]
  exact firstReplaced_replaceFirst (Token.source_ne_nil .requests) _ _

omit [FileAccess (StateM W)] [StoresText W] in
theorem feedsFrom_feedStep (layout : Layout) (simulation : String) (feeder : Feeder) :
    FeedsFrom layout.data (feederPath? layout simulation feeder) (feedStep simulation feeder) := by
  rw [feederPath?, feedStep]
  split
  · exact .nothing
  · exact .file (simulation ++ ".json")

/-- A report tells the truth about the run that it ends, whatever the schedule was. -/
theorem report_holds (outputName : Option String) (events : List (Operation × W))
    (schedule : Schedule) (layout : Layout) (template : Option Path) (w : W) {report : Report}
    (hok : (runOn (((new outputName).reached events).write schedule layout template) w).1.1 =
      .ok report) :
    let s := (new outputName).reached events
    let after := (runOn (s.write schedule layout template) w).2
    let here := toFileView.here w
    let rendered := s.requests.map (block report.simulation requestDepth)
    (report.feeder.isSome ↔ s.feeder.isEmpty = false) ∧
      (∀ path, report.feeder = some path →
        toFileView.file? after (path.destination here) = some (.text s.feeder.document)) ∧
      (report.feeder = none →
        let l := (layout.feeder report.simulation).destination here
        toFileView.file? after l = toFileView.file? w l) ∧
      report.requestCount = rendered.length ∧
      ∃ text feed scenario,
        (runOn (readTemplate template : StateM W _)
          (runOn (makeDirectories (layout.bodiesOf report.simulation) : StateM W _) w).2).1 =
            .ok text ∧
        FeedsFrom layout.data report.feeder feed ∧
        Fills text report.simulation feed (String.join rendered) scenario ∧
        toFileView.file? after (report.scenario.destination here) = some (.text scenario) := by
  intro s after here rendered
  obtain ⟨name, text, rfl, hwritten⟩ := written_of_write_ok outputName events hok
  refine ⟨?_, fun path hpath => ?_, fun hnone => ?_, (List.length_map _).symm, text,
    feedStep name s.feeder, scenarioText text name s.feeder s.requests, hwritten.template,
    feedsFrom_feedStep layout name s.feeder, fills_scenarioText text name s.feeder s.requests,
    hwritten.scenario⟩
  · show (feederPath? layout name s.feeder).isSome ↔ _
    rw [feederPath?]
    cases s.feeder.isEmpty with
    | true => simp
    | false => simp
  · change feederPath? layout name s.feeder = some path at hpath
    rw [feederPath?] at hpath
    split at hpath
    next => cases hpath
    next hfull =>
      obtain rfl := Option.some.inj hpath
      exact hwritten.feeder (Bool.eq_false_iff.mpr hfull)
  · change feederPath? layout name s.feeder = none at hnone
    rw [feederPath?] at hnone
    split at hnone
    next hempty => exact hwritten.unfed hempty
    next => cases hnone

/-- If the template is made of texts and tokens, the scenario is the template with each token
replaced on its own, and the requests stand in it as they are, whatever they hold. -/
theorem write_fills_at_once {segments : List Segment} (hclear : ∀ x ∈ segments, x.Clear) :
    (∀ (given : String) (feeder : Feeder) (rs : List Request),
      let name := className given
      let requests := blocks name requestDepth rs
      scenarioText (templateOf segments) name feeder rs =
          String.ofList (filledAtOnce name.toList (some (feedStep name feeder).toList)
            (some requests.toList) segments) ∧
        (.token .requests ∈ segments →
          requests.toList <:+: (scenarioText (templateOf segments) name feeder rs).toList)) ∧
      ∀ (outputName : Option String) (events : List (Operation × W)) (schedule : Schedule)
        (layout : Layout) (template : Option Path) (w : W) (report : Report),
        let s := (new outputName).reached events
        let result := runOn (s.write schedule layout template) w
        result.1.1 = .ok report →
        (runOn (readTemplate template : StateM W _)
          (runOn (makeDirectories (layout.bodiesOf report.simulation) : StateM W _) w).2).1 =
            .ok (templateOf segments) →
        s.name? = some report.simulation ∧
          toFileView.file? result.2 (report.scenario.destination (toFileView.here w)) =
            some (.text (String.ofList (filledAtOnce report.simulation.toList
              (some (feedStep report.simulation s.feeder).toList)
              (some (blocks report.simulation requestDepth s.requests).toList) segments))) := by
  refine ⟨fun given feeder rs => ?_, ?_⟩
  · intro name requests
    have htext := scenarioText_templateOf hclear (isWord_className given) feeder rs
    refine ⟨htext, fun hrequests => ?_⟩
    rw [htext, String.toList_ofList]
    exact infix_filledAtOnce hrequests _ _
  · intro outputName events schedule layout template w report s result hok htemplate
    obtain ⟨name, text, rfl, hwritten⟩ := written_of_write_ok outputName events hok
    have htext := hwritten.template.symm.trans htemplate
    obtain rfl := Except.ok.inj htext
    have hscenario := hwritten.scenario
    rw [scenarioText_templateOf hclear (isWord_of_name? hwritten.named).1] at hscenario
    exact ⟨hwritten.named, hscenario⟩

end

/-! ## Names that look like tokens -/

/-- A collection with one request that is called like the tokens of a template. -/
def tokenNamed : Collection where
  name := "Shop"
  folders := []
  requests := [⟨"1", "\x7b\x7bfeeder\x7d\x7d \x7b\x7brequests\x7d\x7d", "POST", "/x", "",
    some "raw", some "\x7b\x7boutputName\x7d\x7d", none, none, none⟩]
  order := ["1"]

def tokenSegments : List Segment :=
  [.text "class ", .token .name, .text "\n", .token .feeder, .token .requests, .token .feeder]

def tokenInputs : FileSystem :=
  inputs tokenNamed [⟨"host", "shop", true⟩] (templateOf tokenSegments)

def shopReport : Report :=
  ⟨"Shop", ⟨"out/simulations/Shop.scala"⟩, some ⟨"out/data/Shop.json"⟩, 1⟩

theorem write_tokenInputs :
    (runOn (((new none).reached (loading tokenInputs)).write .plain uploadLayout
      (some ⟨"t.scala"⟩)) tokenInputs).1.1 = .ok shopReport := by
  rw [tokenInputs, reached_loading]
  decide +kernel

theorem template_tokenInputs :
    (runOn (readTemplate (some ⟨"t.scala"⟩))
      (runOn (makeDirectories (uploadLayout.bodiesOf shopReport.simulation)) tokenInputs).2).1 =
        .ok (templateOf tokenSegments) := by
  rfl

theorem clear_tokenSegments : ∀ x ∈ tokenSegments, x.Clear := by
  have hclosed : ∀ s ∈ ["class ", "\n"], Closed s.toList := by
    simp only [List.forall_mem_cons]
    exact ⟨closed_of_not_mem (by decide), closed_of_not_mem (by decide), nofun⟩
  simp only [tokenSegments, List.forall_mem_cons]
  exact ⟨hclosed "class " (by simp), trivial, hclosed "\n" (by simp), trivial, trivial, trivial,
    nofun⟩

theorem write_fills_at_once_tokenInputs :
    let s := (new none).reached (loading tokenInputs)
    let result := runOn (s.write .plain uploadLayout (some ⟨"t.scala"⟩)) tokenInputs
    let name := shopReport.simulation
    result.1.1 = .ok shopReport ∧ s.name? = some name ∧
      toFileView.file? result.2 (shopReport.scenario.destination (toFileView.here tokenInputs)) =
        some (.text (String.ofList (filledAtOnce name.toList
          (some (feedStep name s.feeder).toList)
          (some (blocks name requestDepth s.requests).toList) tokenSegments))) :=
  ⟨write_tokenInputs, (write_fills_at_once clear_tokenSegments).2 none (loading tokenInputs) .plain
    uploadLayout (some ⟨"t.scala"⟩) tokenInputs shopReport write_tokenInputs template_tokenInputs⟩

theorem report_holds_tokenInputs :
    let s := (new none).reached (loading tokenInputs)
    let result := runOn (s.write .plain uploadLayout (some ⟨"t.scala"⟩)) tokenInputs
    result.1.1 = .ok shopReport ∧ s.feeder.isEmpty = false ∧
      ∀ path, shopReport.feeder = some path →
        toFileView.file? result.2 (path.destination (toFileView.here tokenInputs)) =
          some (.text s.feeder.document) :=
  have hreport := report_holds none (loading tokenInputs) .plain uploadLayout (some ⟨"t.scala"⟩)
    tokenInputs write_tokenInputs
  ⟨write_tokenInputs, hreport.1.mp rfl, hreport.2.1⟩

/-! ## A token that a name completes -/

/-- A template that holds one token for the feed step. A name can make another one in front of
it. -/
def splitTemplate : String :=
  "\x7b\x7bfeed\x7b\x7boutputName\x7d\x7d\x7d\x7d\n\x7b\x7bfeeder\x7d\x7d\n"

def splitInputs : FileSystem := inputs ⟨"Notes", [], [], []⟩ [⟨"host", "shop", true⟩] splitTemplate

def splitReport : Report :=
  ⟨"er", ⟨"out/simulations/er.scala"⟩, some ⟨"out/data/er.json"⟩, 0⟩

/-- The feed step goes where the name has completed a token, and the token that stands in the
template stays. -/
theorem feeder_token_stays :
    let s := (new (some "er")).reached (loading splitInputs)
    let result := runOn (s.write .plain uploadLayout (some ⟨"t.scala"⟩)) splitInputs
    let feed := (feedLine "er" requestDepth).toList
    let front := "\x7b\x7bfeed\x7b\x7boutputName\x7d\x7d\x7d\x7d\n".toList
    result.1.1 = .ok splitReport ∧
      splitTemplate.toList = front ++ (feederToken ++ ['\n']) ∧ ¬ feederToken <:+: front ∧
      ∃ scenario, toFileView.file? result.2
          (splitReport.scenario.destination (toFileView.here splitInputs)) =
            some (.text scenario) ∧
        scenario.toList = feed ++ '\n' :: (feederToken ++ ['\n']) ∧
        scenario.toList ≠ feederToken ++ '\n' :: (feed ++ ['\n']) := by
  have hrun : (runOn (((new (some "er")).reached (loading splitInputs)).write .plain uploadLayout
        (some ⟨"t.scala"⟩)) splitInputs).1.1 = .ok splitReport ∧
      ((new (some "er")).reached (loading splitInputs)).feeder.isEmpty = false ∧
      ((new (some "er")).reached (loading splitInputs)).requests = [] := by
    rw [splitInputs, reached_loading]
    decide +kernel
  obtain ⟨hok, hfull, hrequests⟩ := hrun
  obtain ⟨name, text, hreport, hwritten⟩ := written_of_write_ok _ _ hok
  obtain rfl : "er" = name := congrArg Report.simulation hreport
  have hpath : splitReport.scenario = uploadLayout.scenario "er" :=
    congrArg Report.scenario hreport
  have htemplate : Except.ok splitTemplate = Except.ok text := hwritten.template
  obtain rfl := Except.ok.inj htemplate
  have hscenario := hwritten.scenario
  rw [← hpath, hrequests] at hscenario
  have htext : (scenarioText splitTemplate "er"
      ((new (some "er")).reached (loading splitInputs)).feeder []).toList =
        (feedLine "er" requestDepth).toList ++ '\n' :: (feederToken ++ ['\n']) := by
    rw [scenarioText, hfull, fill, String.toList_ofList]
    decide +kernel
  refine ⟨hok, by decide +kernel, by decide +kernel, _, hscenario, htext, ?_⟩
  rw [htext]
  decide +kernel

end Simulation

end LoadScenario
