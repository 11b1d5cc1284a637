import LoadScenario.Proofs.ListedSecrets
import LoadScenario.Proofs.RecordedWarnings
import LoadScenario.Proofs.SelfDelimiting

/-!
# Which warnings are printed

What comes up while a command runs is collected and printed at the end under a heading. A conversion
does so however it ends: what the analysis has found before an unknown id, and what the work on the
bodies has found next to a file that could not be written. A listing does so only if it gets to its
end. When an id is that of no request, the warnings about the requests in front of it are lost.

A line is here what is printed at a time. Texts of the user can hold line ends, and then a part of a
line can look like anything.
-/

namespace LoadScenario

open Work

/-! ## Lines that show warnings -/

/-- The heading of the warnings. -/
def warningHeading (color : Bool) : String := paint color .yellow "! Warnings:"

/-- What each line about a warning starts with. -/
def warningMark : String := "  - "

/-- The line about a warning. -/
def warningItem (color : Bool) (w : Warning) : String :=
  warningMark ++ paint color .yellow w.message

/-- Lines show warnings: there is one heading if there are any, and behind it, and nowhere else,
stand the warnings, each once and the oldest first. -/
structure Shows (color : Bool) (ws : List Warning) (lines : List String) : Prop where
  once : lines.count (warningHeading color) = if ws.isEmpty then 0 else 1
  each : lines.filter (fun line => warningMark.toList.isPrefixOf line.toList) =
    ws.map (warningItem color)
  under : ∀ before behind, lines = before ++ warningHeading color :: behind →
    behind = ws.map (warningItem color)

/-- A line that is neither the heading nor about a warning. -/
def Plain (color : Bool) (line : String) : Prop :=
  ∀ t ∈ [warningHeading color, warningMark], ¬ t.toList <+: line.toList

instance (color : Bool) (line : String) : Decidable (Plain color line) :=
  inferInstanceAs (Decidable (∀ t ∈ [warningHeading color, warningMark],
    ¬ t.toList <+: line.toList))

/-- What the heading and the lines about warnings start with. -/
def warningStarts : List String := ["! Warnings:", "\x1b[33m", "  - "]

/-- A text that tells every line that starts with it from those of the warnings. -/
def TellsApart (s : String) : Prop :=
  ∀ t ∈ warningStarts, ¬ s.toList <+: t.toList ∧ ¬ t.toList <+: s.toList

variable {color : Bool} {told : List String} {ws : List Warning}

theorem exists_warningStart {t : String} (ht : t ∈ [warningHeading color, warningMark]) :
    ∃ start ∈ warningStarts, start.toList <+: t.toList := by
  rcases List.mem_cons.mp ht with rfl | ht
  · cases color with
    | false => exact ⟨"! Warnings:", .head _, List.prefix_rfl⟩
    | true =>
        have hsetting : Style.yellow.setting = "\x1b[33m" := by simp [Style.setting, Style.code]
        refine ⟨"\x1b[33m", .tail _ (.head _), ?_⟩
        rw [warningHeading, paint, if_pos rfl, hsetting, String.append_assoc, String.toList_append]
        exact List.prefix_append _ _
  · obtain rfl := List.mem_singleton.mp ht
    exact ⟨warningMark, .tail _ (.tail _ (.head _)), List.prefix_rfl⟩

theorem TellsApart.plain {s : String} (h : TellsApart s) (rest : String) :
    Plain color (s ++ rest) := by
  intro t ht hfront
  obtain ⟨start, hstart, ht⟩ := exists_warningStart ht
  obtain ⟨hs, hnot⟩ := h start hstart
  rw [String.toList_append] at hfront
  exact (List.prefix_or_prefix_of_prefix (List.prefix_append _ _) (ht.trans hfront)).elim hs hnot

theorem plain_empty : Plain color "" := by
  intro t ht hfront
  obtain ⟨start, hstart, ht⟩ := exists_warningStart ht
  have hempty : start.toList = [] := List.prefix_nil.mp (ht.trans hfront)
  have hfull : ∀ start ∈ warningStarts, start.toList ≠ [] := by simp [warningStarts]
  exact hfull start hstart hempty

theorem Plain.ne_heading {line : String} (h : Plain color line) : line ≠ warningHeading color :=
  fun heq => h _ List.mem_cons_self (heq ▸ List.prefix_rfl)

/-- A text in another colour than the heading. -/
theorem plain_paint (color : Bool) {style : Style} (hstyle : style ≠ .yellow) {s : String}
    (hs : TellsApart s) (more rest : String) :
    Plain color (paint color style (s ++ more) ++ rest) := by
  cases color with
  | false =>
      rw [paint, if_neg Bool.false_ne_true, String.append_assoc]
      exact hs.plain _
  | true =>
      have hsetting : TellsApart style.setting := by
        cases style with
        | yellow => exact absurd rfl hstyle
        | bold | green | cyan | brightYellow | brightBlue | brightCyan =>
            simp [TellsApart, warningStarts, Style.setting, Style.code]
      rw [paint, if_pos rfl, String.append_assoc, String.append_assoc]
      exact hsetting.plain _

theorem plain_paint_self (color : Bool) {style : Style} (hstyle : style ≠ .yellow) {s : String}
    (hs : TellsApart s) : Plain color (paint color style s) := by
  have hplain := plain_paint color hstyle hs "" ""
  rwa [String.append_empty, String.append_empty] at hplain

theorem not_mark_heading : ¬ warningMark.toList <+: (warningHeading color).toList := by
  cases color with
  | false => simp [warningMark, warningHeading, paint]
  | true => simp [warningMark, warningHeading, paint, Style.setting]

theorem heading_not_mem (hplain : ∀ line ∈ told, Plain color line) :
    warningHeading color ∉ told := fun h => (hplain _ h).ne_heading rfl

theorem filter_plain (hplain : ∀ line ∈ told, Plain color line) :
    told.filter (fun line => warningMark.toList.isPrefixOf line.toList) = [] := by
  refine List.filter_eq_nil_iff.mpr fun line hline hmark => ?_
  exact hplain line hline warningMark (List.mem_cons_of_mem _ List.mem_cons_self)
    (List.isPrefixOf_iff_prefix.mp hmark)

theorem heading_not_mem_items : warningHeading color ∉ ws.map (warningItem color) := by
  intro h
  obtain ⟨w, -, hitem⟩ := List.mem_map.mp h
  have hfront : warningMark.toList <+: (warningHeading color).toList := by
    rw [← hitem, warningItem, String.toList_append]
    exact List.prefix_append _ _
  exact not_mark_heading hfront

/-- Warnings that are printed behind plain lines are shown. -/
theorem shows_warningLines (hplain : ∀ line ∈ told, Plain color line) (ws : List Warning) :
    Shows color ws (told ++ warningLines color ws) := by
  cases hempty : ws.isEmpty with
  | true =>
      obtain rfl := List.isEmpty_iff.mp hempty
      rw [warningLines, if_pos hempty, List.append_nil]
      refine ⟨List.count_eq_zero.mpr (heading_not_mem hplain), filter_plain hplain, ?_⟩
      rintro before behind rfl
      exact absurd (by simp) (heading_not_mem hplain)
  | false =>
      have hlines : told ++ warningLines color ws =
          (told ++ [""]) ++ warningHeading color :: ws.map (warningItem color) := by
        rw [warningLines, hempty, if_neg Bool.false_ne_true, List.append_assoc]
        rfl
      have hbefore : ∀ line ∈ told ++ [""], Plain color line := by
        intro line hline
        rcases List.mem_append.mp hline with htold | hblank
        · exact hplain line htold
        · rw [List.mem_singleton.mp hblank]
          exact plain_empty
      rw [hlines]
      refine ⟨?_, ?_, fun before behind heq => ?_⟩
      · rw [List.count_append, List.count_cons_self,
          List.count_eq_zero.mpr (heading_not_mem hbefore),
          List.count_eq_zero.mpr heading_not_mem_items, hempty]
        rfl
      · have hheading : warningMark.toList.isPrefixOf (warningHeading color).toList = false :=
          Bool.eq_false_iff.mpr (not_mark_heading <| List.isPrefixOf_iff_prefix.mp ·)
        have hitems : ∀ line ∈ ws.map (warningItem color),
            warningMark.toList.isPrefixOf line.toList = true := by
          intro line hline
          obtain ⟨w, -, rfl⟩ := List.mem_map.mp hline
          rw [warningItem, String.toList_append]
          exact List.isPrefixOf_iff_prefix.mpr (List.prefix_append _ _)
        rw [List.filter_append, filter_plain hbefore, List.nil_append,
          List.filter_cons_of_neg (by rw [hheading]; exact Bool.false_ne_true),
          List.filter_eq_self.mpr hitems]
      -- The heading stands nowhere else, so that there is one way to split the lines at it.
      · exact ((List.append_cons_inj_of_notMem (heading_not_mem hbefore)
          heading_not_mem_items).mp heq).2.2.symm

/-- Plain lines alone show warnings only if there are none. -/
theorem shows_plain_iff (hplain : ∀ line ∈ told, Plain color line) :
    Shows color ws told ↔ ws = [] := by
  refine ⟨fun h => ?_, ?_⟩
  · have heach := h.each
    rw [filter_plain hplain] at heach
    exact List.map_eq_nil_iff.mp heach.symm
  · rintro rfl
    have hshows := shows_warningLines hplain []
    rwa [warningLines, List.isEmpty_nil, if_pos rfl, List.append_nil] at hshows

/-! ## Everything else that is printed -/

theorem plain_number (place : Nat) (rest : String) :
    Plain color ("  " ++ toString place ++ rest) := by
  obtain ⟨digit, digits, hplace⟩ : ∃ c cs, (toString place).toList = c :: cs :=
    List.exists_cons_of_ne_nil fun h => by simp at h
  have hdigit : digit ≠ '-' := by
    rintro rfl
    cases isDigit_of_mem_number (n := place) (by rw [hplace]; exact .head _)
  have hstarts : ∀ start ∈ warningStarts,
      ¬ start.toList <+: ' ' :: ' ' :: digit :: (digits ++ rest.toList) := by
    simp [warningStarts, hdigit.symm]
  intro t ht hfront
  obtain ⟨start, hstart, ht⟩ := exists_warningStart ht
  rw [String.toList_append, String.toList_append, hplace] at hfront
  exact hstarts start hstart (ht.trans hfront)

namespace Listing

theorem plain_checkLines (c : Checks) : ∀ line ∈ checkLines color c, Plain color line := by
  have hfront : ∀ s ∈ ["     Checks: ", "       status in ", "       status not ",
    "       body matches ", "       save "], TellsApart s := by simp [TellsApart, warningStarts]
  simp only [List.forall_mem_cons] at hfront
  obtain ⟨hchecks, hstatus, hnot, hbody, hsave, -⟩ := hfront
  intro line hline
  rw [checkLines] at hline
  split at hline
  · cases hline
  simp only [List.mem_append, List.mem_singleton, List.mem_map] at hline
  rcases hline with (((rfl | hline) | ⟨_, -, rfl⟩) | ⟨_, -, rfl⟩) | ⟨_, -, rfl⟩
  · exact hchecks.plain _
  · split at hline
    · cases hline
    · rw [List.mem_singleton.mp hline]
      exact hstatus.plain _
  · exact hnot.plain _
  · exact hbody.plain _
  · rw [String.append_assoc, String.append_assoc]
    exact hsave.plain _

theorem plain_requestLines (place : Nat) (r : Request) :
    ∀ line ∈ requestLines color place r, Plain color line := by
  have hfront : ∀ s ∈ ["     URL: ", "     Auth: ", "     Headers: ", "     Body: "],
    TellsApart s := by simp [TellsApart, warningStarts]
  simp only [List.forall_mem_cons] at hfront
  obtain ⟨hurl, hauth, hheaders, hbody, -⟩ := hfront
  intro line hline
  simp only [requestLines, List.mem_append, List.mem_cons, List.not_mem_nil, or_false,
    List.mem_map] at hline
  rcases hline with ((((rfl | rfl | rfl) | ⟨_, -, rfl⟩) | hline) | ⟨_, -, rfl⟩) | hline
  · exact plain_empty
  · simp only [String.append_assoc]
    rw [← String.append_assoc]
    exact plain_number place _
  · exact hurl.plain _
  · simp only [String.append_assoc]
    exact hauth.plain _
  · split at hline
    · cases hline
    · rw [List.mem_singleton.mp hline]
      exact hheaders.plain _
  · exact hbody.plain _
  · exact plain_checkLines r.checks line hline

theorem plain_requestsFrom (place : Nat) (rs : List Request) :
    ∀ line ∈ requestsFrom color place rs, Plain color line := by
  induction rs generalizing place with
  | nil => exact nofun
  | cons r rs ih =>
      intro line hline
      exact (List.mem_append.mp hline).elim (plain_requestLines place r line)
        (ih (place + 1) line)

theorem plain_requestsLines (rs : List Request) :
    ∀ line ∈ requestsLines color rs, Plain color line := by
  intro line hline
  rw [requestsLines] at hline
  split at hline
  · have hnone : ∀ color, Plain color (paint color .yellow "No requests found") := by
      decide +kernel
    rw [List.mem_singleton.mp hline]
    exact hnone color
  · rcases List.mem_cons.mp hline with rfl | hline
    · have hbold : Style.bold ≠ .yellow := by decide
      have hrequests : TellsApart "Requests (" := by simp [TellsApart, warningStarts]
      have hplain := plain_paint color hbold hrequests (toString rs.length ++ "):") ""
      rwa [String.append_empty, ← String.append_assoc] at hplain
    · exact plain_requestsFrom 1 rs line hline

theorem plain_opening (path : Path) : ∀ line ∈ opening color path, Plain color line := by
  have hblue : Style.brightBlue ≠ .yellow := by decide
  have hloading : TellsApart "Loading Postman collection..." := by simp [TellsApart, warningStarts]
  have hpath : TellsApart "  Path: " := by simp [TellsApart, warningStarts]
  simp only [opening, List.forall_mem_cons]
  exact ⟨plain_paint_self color hblue hloading, hpath.plain _, nofun⟩

theorem plain_simulationLines (s : Simulation) :
    ∀ line ∈ simulationLines color s, Plain color line := by
  have hgreen : Style.green ≠ .yellow := by decide
  have hloaded : TellsApart "✓ Collection loaded successfully" := by
    simp [TellsApart, warningStarts]
  have hfront : ∀ s ∈ ["  Simulation: ", "  Variables: ", "    "], TellsApart s := by
    simp [TellsApart, warningStarts]
  simp only [List.forall_mem_cons] at hfront
  obtain ⟨hname, hcount, hvalue, -⟩ := hfront
  intro line hline
  simp only [simulationLines, List.mem_append, List.mem_cons, List.not_mem_nil, or_false,
    List.mem_map] at hline
  rcases hline with (((((rfl | rfl) | ⟨_, -, rfl⟩) | rfl) | ⟨_, -, rfl⟩) | rfl) | hline
  · exact plain_empty
  · exact plain_paint_self color hgreen hloaded
  · exact hname.plain _
  · exact hcount.plain _
  · simp only [String.append_assoc]
    exact hvalue.plain _
  · exact plain_empty
  · exact plain_requestsLines s.requests line hline

/-- The lines that a listing prints for what it has prepared. -/
def linesFor (color : Bool) (path : Path) (answer : Except Failure Unit) (s : Simulation) :
    List String :=
  match answer with
  | .error _ => opening color path
  | .ok () => opening color path ++ simulationLines color s ++ warningLines color s.warnings

theorem printedFor_eq (color : Bool) (path : Path) (answer : Except Failure Unit)
    (s : Simulation) :
    printedFor color path answer s = ⟨printed (linesFor color path answer s), answer⟩ := by
  cases answer with
  | error failure => rfl
  | ok _ => rfl

theorem shows_linesFor_iff (path : Path) (answer : Except Failure Unit) (s : Simulation) :
    Shows color s.warnings (linesFor color path answer s) ↔ answer = .ok () ∨ s.warnings = [] := by
  cases answer with
  | error failure =>
      rw [linesFor, shows_plain_iff (plain_opening path)]
      simp
  | ok _ =>
      refine ⟨fun _ => .inl rfl, fun _ => shows_warningLines ?_ _⟩
      intro line hline
      exact (List.mem_append.mp hline).elim (plain_opening path line)
        (plain_simulationLines s line)

end Listing

namespace Conversion

theorem plain_doneLine (what : String) (path : Path) : Plain color (doneLine color what path) := by
  have hgreen : Style.green ≠ .yellow := by decide
  have hdone : TellsApart "✓" := by simp [TellsApart, warningStarts]
  have hplain := plain_paint color hgreen hdone "" (" " ++ what ++ ": " ++ path.text)
  simpa only [doneLine, String.append_empty, String.append_assoc] using hplain

theorem plain_loadingLines (c : Conversion) :
    ∀ line ∈ c.loadingLines color, Plain color line := by
  intro line hline
  rcases List.mem_append.mp hline with henvironment | hcollection
  · obtain ⟨_, -, rfl⟩ := List.mem_map.mp henvironment
    exact plain_doneLine _ _
  · rw [List.mem_singleton.mp hcollection]
    exact plain_doneLine _ _

theorem plain_reportLines (layout : Layout) (r : Report) :
    ∀ line ∈ reportLines color layout r, Plain color line := by
  have hfront : ∀ s ∈ ["  Simulation: ", "  Bodies: "], TellsApart s := by
    simp [TellsApart, warningStarts]
  simp only [List.forall_mem_cons] at hfront
  obtain ⟨hsimulation, hbodies, -⟩ := hfront
  intro line hline
  simp only [reportLines, List.mem_append, List.mem_cons, List.not_mem_nil, or_false,
    List.mem_map] at hline
  rcases hline with (rfl | ⟨_, -, rfl⟩) | rfl | rfl
  · exact plain_doneLine _ _
  · exact plain_doneLine _ _
  · simp only [String.append_assoc]
    exact hsimulation.plain _
  · exact hbodies.plain _

section

variable {W : Type} [FileAccess (StateM W)]

theorem plain_told (c : Conversion) (schedule : Schedule) (w : W) :
    ∀ line ∈ (runOn (c.steps color schedule) w).1.1, Plain color line := by
  intro line hline
  obtain ⟨failure, told, -, hfront, hran⟩ | ⟨-, hran⟩ := c.steps_cases color schedule w
  · rw [hran] at hline
    exact c.plain_loadingLines line (hfront.subset hline)
  · rw [hran] at hline
    rcases List.mem_append.mp hline with hloading | hreport
    · exact c.plain_loadingLines line hloading
    · obtain ⟨report, -, hline⟩ := List.mem_flatMap.mp hreport
      exact plain_reportLines c.layout report line hline

end

end Conversion

/-! ## Both commands -/

/-- A conversion shows all warnings however it ends, those of the analysis first and then what the
work on the bodies has found. A listing comes upon the warnings of the analysis, and shows them
exactly if it does not fail or there are none. -/
theorem commands_show_warnings {W : Type} [FileAccess (StateM W)] (color : Bool) :
    (∀ (c : Conversion) (schedule : Schedule) (w : W),
      let loaded :=
        (runOn ((Simulation.new c.output).prepare c.collection c.environment : StateM W _) w).2
      let (told, answer, s) := (runOn (c.steps color schedule) w).1
      let lines := told ++ warningLines color s.warnings
      (runOn (c.run color schedule) w).1 = ⟨printed lines, answer⟩ ∧
        Shows color s.warnings lines ∧
        ∃ found, c.Finds loaded s found ∧ s.warnings = s.stage.analysisWarnings ++ found) ∧
    ∀ (collection : Path) (environment : Option Path) (w : W),
      let (answer, s) := (runOn (Listing.prepare collection environment : StateM W _) w).1
      let lines := Listing.linesFor color collection answer s
      (runOn (Listing.run color collection environment) w).1 = ⟨printed lines, answer⟩ ∧
        (Shows color s.warnings lines ↔ answer = .ok () ∨ s.warnings = []) ∧
        s.warnings = s.stage.analysisWarnings := by
  refine ⟨fun c schedule w => ⟨rfl, ?_, c.warnings_steps color schedule w⟩,
    fun collection environment w => ⟨?_, ?_, ?_⟩⟩
  · exact shows_warningLines (c.plain_told schedule w) _
  · rw [Listing.runOn_run, Listing.printedFor_eq]
  · exact Listing.shows_linesFor_iff collection _ _
  · rw [Listing.prepare_eq]
    exact ((Simulation.new none).prepared collection environment w).warnings rfl rfl

/-! ## A warning that is lost -/

namespace Listing

/-- A collection that lists a request which it does not have behind one with a helper that is not
supported. -/
def halfListed : Collection where
  name := "Notes"
  folders := []
  requests := [⟨"1", "Sign in", "GET", "/x", "", none, none, some "oauth1", none, none⟩]
  order := ["1", "2"]

theorem prepare_halfListed :
    (runOn (prepare ⟨"c.json"⟩ none) (Simulation.inputs halfListed [] "")).1 =
      derive ⟨none, [], .loaded halfListed, []⟩ := by
  have henvironment : runOn ((Simulation.new none).readEnvironment none)
      (Simulation.inputs halfListed [] "") =
        ((.ok (), Simulation.new none), Simulation.inputs halfListed [] "") := rfl
  exact runOn_prepare henvironment rfl (Collection.read?_compact _)

/-- The listing of such a collection fails and does not print the warning that has come up. -/
theorem halfListed_hides_warning :
    let fs := Simulation.inputs halfListed [] ""
    let prepared := (runOn (prepare ⟨"c.json"⟩ none) fs).1
    let outcome := (runOn (run false ⟨"c.json"⟩ none) fs).1
    outcome.result = .error (.requestNotFound "2" "Notes") ∧
      prepared.2.warnings = [.unsupportedHelper "Sign in" "oauth1"] ∧
      outcome.stdout = "Loading Postman collection...\n  Path: c.json\n" ∧
      ¬ Shows false prepared.2.warnings
        (linesFor false ⟨"c.json"⟩ prepared.1 prepared.2) := by
  have hderived : (derive ⟨none, [], .loaded halfListed, []⟩).1 =
        .error (.requestNotFound "2" "Notes") ∧
      (derive ⟨none, [], .loaded halfListed, []⟩).2.warnings =
        [.unsupportedHelper "Sign in" "oauth1"] := by
    decide +kernel
  simp only [runOn_run, prepare_halfListed, printedFor_eq]
  refine ⟨hderived.1, hderived.2, ?_, fun hshows => ?_⟩
  · rw [hderived.1]
    decide +kernel
  · rw [shows_linesFor_iff, hderived.1, hderived.2] at hshows
    simp at hshows

end Listing

end LoadScenario
