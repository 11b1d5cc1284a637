import LoadScenario.Proofs.TemplateFilling

/-!
# The name of the class

A scenario declares a class that is called after its simulation, so the name has to be one that a
class can have: a word of letters, digits and underscores that starts with no digit. Two rules work
towards this. The one that is shared with file names turns what is unsafe into underscores, and the
other puts an underscore in front of a name that would be empty or start with a digit. Together they
see to the first character, and a second round of them changes nothing. They do not see to the
hyphen, which is safe in the name of a file: it stays, and it is the only character that gets in the
way.

Words that are reserved are not looked at here, neither by the two rules nor in what is a word.
-/

namespace LoadScenario

open Text Scenario

/-- A word that the name of a class can be. -/
structure IsClassName (s : String) : Prop where
  nonempty : s ≠ ""
  start : ∀ c ∈ s.toList.head?, c.isDigit = false
  chars : ∀ c ∈ s.toList, c.isAlphanum ∨ c = '_'

/-! ## The two rules -/

theorem safeName_of_isWord {s : String} (h : IsWord s) : safeName s = s := by
  have hchars : s.toList.map (fun c => if isSafe c then c else '_') = s.toList.map id := by
    refine List.map_congr_left fun c hc => ?_
    rcases h c hc with hsafe | rfl
    · exact if_pos hsafe
    · rfl
  rw [safeName, hchars, List.map_id, String.ofList_toList]

theorem hyphen_mem_safeName_iff (name : String) :
    '-' ∈ (safeName name).toList ↔ '-' ∈ name.toList := by
  rw [safeName, String.toList_ofList, List.mem_map]
  constructor
  · rintro ⟨c, hc, hhyphen⟩
    split at hhyphen
    · rwa [← hhyphen]
    · exact absurd hhyphen (by decide)
  · exact fun hhyphen => ⟨'-', hhyphen, by decide⟩

/-- What the rule for class names looks at. -/
theorem className_cases (name : String) :
    (className name = safeName name ∧
      ∃ c cs, (safeName name).toList = c :: cs ∧ c.isDigit = false) ∨
    className name = "_" ++ safeName name := by
  rw [className]
  split
  next hhead =>
    refine .inl ⟨rfl, ?_⟩
    cases hsafe : (safeName name).toList with
    | nil => rw [hsafe] at hhead; cases hhead
    | cons c cs =>
        rw [hsafe, List.head?_cons, Option.any_some, Bool.not_eq_true'] at hhead
        exact ⟨c, cs, rfl, hhead⟩
  next => exact .inr rfl

theorem hyphen_mem_className_iff (name : String) :
    '-' ∈ (className name).toList ↔ '-' ∈ name.toList := by
  rcases className_cases name with ⟨hname, -⟩ | hname <;> rw [hname]
  · exact hyphen_mem_safeName_iff name
  · rw [String.toList_append, List.mem_append, hyphen_mem_safeName_iff]
    exact or_iff_right (by decide)

/-- A class name starts with a character that is no digit. -/
theorem start_className (name : String) :
    ∃ c cs, (className name).toList = c :: cs ∧ c.isDigit = false := by
  rcases className_cases name with ⟨hname, hstart⟩ | hname <;> rw [hname]
  · exact hstart
  · exact ⟨'_', _, String.toList_append, by decide⟩

theorem className_className (name : String) : className (className name) = className name := by
  obtain ⟨c, cs, hname, hc⟩ := start_className name
  rw [className, safeName_of_isWord (isWord_className name)]
  refine if_pos ?_
  rw [hname, List.head?_cons, Option.any_some, hc]
  rfl

theorem isClassName_className_iff (name : String) :
    IsClassName (className name) ↔ '-' ∉ name.toList := by
  constructor
  · intro h hhyphen
    have hchar := h.chars '-' ((hyphen_mem_className_iff name).mpr hhyphen)
    exact absurd hchar (by decide)
  · intro hhyphen
    refine ⟨className_ne_empty name, ?_, ?_⟩
    · obtain ⟨c, cs, hname, hc⟩ := start_className name
      rw [hname]
      rintro _ ⟨⟩
      exact hc
    · intro c hc
      rcases isWord_className name c hc with hsafe | hunderscore
      · rw [isSafe, Bool.or_eq_true, decide_eq_true_iff] at hsafe
        refine .inl (hsafe.resolve_right ?_)
        rintro rfl
        exact hhyphen ((hyphen_mem_className_iff name).mp hc)
      · exact .inr hunderscore

/-! ## The line that declares the class -/

theorem Text.mem_lines {line : List Char} (hline : '\n' ∉ line) (before behind : List Char) :
    line ∈ lines (before ++ '\n' :: (line ++ '\n' :: behind)) := by
  rw [lines_append_newline, lines_append_newline, lines_of_not_mem hline]
  exact List.mem_append_right _ (List.mem_append_left _ List.mem_cons_self)

namespace Scenario

/-- In front of the first token that is not the name, filling puts in the name and nothing else. -/
theorem fill_toList {template simulation : String} {before between behind : List Char}
    (hbefore : Closed before) (hsimulation : Closed simulation.toList) (hbetween : Closed between)
    (h : template.toList = before ++ (nameToken ++ (between ++ behind))) (feed requests : String) :
    ∃ rest, (fill template simulation feed requests).toList =
      before ++ (simulation.toList ++ (between ++ rest)) := by
  have hput : ∀ (t : Token) (r rest : List Char), replaceFirst t.source r
      (before ++ (simulation.toList ++ (between ++ rest))) =
        before ++ (simulation.toList ++ (between ++ replaceFirst t.source r rest)) := by
    intro t r rest
    rw [replaceFirst_append (hbefore.passesOver t), replaceFirst_append (hsimulation.passesOver t),
      replaceFirst_append (hbetween.passesOver t)]
  have hnamed : replaceWord (Token.source .name) simulation.toList template.toList =
      before ++ (simulation.toList ++ (between ++
        replaceWord (Token.source .name) simulation.toList behind)) := by
    rw [h, replaceWord_append (hbefore.passesOver .name)]
    rw [show nameToken = Token.source .name from rfl,
      replaceWord_found (Token.source_ne_nil .name), replaceWord_append (hbetween.passesOver .name)]
  have hfill : (fill template simulation feed requests).toList =
      replaceFirst (Token.source .requests) requests.toList
        (replaceFirst (Token.source .feeder) feed.toList
          (replaceWord (Token.source .name) simulation.toList template.toList)) :=
    String.toList_ofList
  rw [hfill, hnamed, hput, hput]
  exact ⟨_, rfl⟩

/-- The line of a scenario that declares its class. -/
def classLine (simulation : String) : String :=
  "class " ++ (simulation ++ " extends Simulation \x7b")

theorem intercalate_around (separator : String) {front back : List String} (hfront : front ≠ [])
    (hback : back ≠ []) {line : String} {cs : List Char} (hline : line.toList = cs) :
    (separator.intercalate (front ++ line :: back)).toList =
      separator.toList.intercalate (front.map String.toList) ++ (separator.toList ++ (cs ++
        (separator.toList ++ separator.toList.intercalate (back.map String.toList)))) := by
  rw [String.intercalate_append_of_ne_nil hfront (List.cons_ne_nil line back),
    String.intercalate_cons_of_ne_nil hback]
  simp only [String.toList_append, String.toList_intercalate, hline, List.append_assoc]

/-- The template that is used if the user gives none declares the class in its sixth line. -/
theorem defaultTemplate_toList : ∃ before behind, '\x7b' ∉ before ∧ defaultTemplate.toList =
    (before ++ '\n' :: "class ".toList) ++
      (nameToken ++ ((" extends Simulation \x7b".toList ++ ['\n']) ++ behind)) := by
  have hclass : "class \x7b\x7boutputName\x7d\x7d extends Simulation \x7b".toList =
      "class ".toList ++ (nameToken ++ " extends Simulation \x7b".toList) := by
    decide
  have hfront : defaultTemplateLines.take 5 ≠ [] := List.cons_ne_nil _ _
  have hback : defaultTemplateLines.drop 6 ≠ [] := List.cons_ne_nil _ _
  have hlines := intercalate_around "\n" hfront hback hclass
  refine ⟨['\n'].intercalate ((defaultTemplateLines.take 5).map String.toList),
    ['\n'].intercalate ((defaultTemplateLines.drop 6).map String.toList), by decide +kernel, ?_⟩
  simp only [List.append_assoc, List.cons_append]
  simp only [List.append_assoc] at hlines
  exact hlines

theorem classLine_mem_lines {simulation : String} (h : IsWord simulation)
    (feed requests : String) :
    (classLine simulation).toList ∈
      lines (fill defaultTemplate simulation feed requests).toList := by
  have hline : '\n' ∉ (classLine simulation).toList := by
    rw [classLine, String.toList_append, String.toList_append, List.mem_append, List.mem_append,
      not_or, not_or]
    exact ⟨by decide, h.not_mem (by decide) (by decide), by decide⟩
  obtain ⟨before, behind, hbefore, htemplate⟩ := defaultTemplate_toList
  have hfront : Closed (before ++ '\n' :: "class ".toList) := by
    refine closed_of_not_mem ?_
    rw [List.mem_append, not_or]
    exact ⟨hbefore, by decide⟩
  have hname : Closed simulation.toList :=
    closed_of_not_mem (h.not_mem (by decide) (by decide))
  obtain ⟨rest, hfill⟩ :=
    fill_toList hfront hname ⟨by decide, by decide⟩ htemplate feed requests
  have hmem := mem_lines hline before rest
  rw [classLine, String.toList_append, String.toList_append] at hmem ⊢
  rw [hfill]
  simp only [List.append_assoc, List.cons_append, List.nil_append] at hmem ⊢
  exact hmem

end Scenario

namespace Simulation

/-- Whatever a simulation is called after, its name is a word that starts with no digit and that
stays the same if it is made safe again, and the scenario declares a class of that name. It is the
name of a class just if there is no hyphen in what the simulation is called after. -/
theorem name_isClassName_iff {s : Simulation} {given : String}
    (h : s.outputName.or (s.stage.collection?.map (·.name)) = some given) :
    ∃ name, s.name? = some name ∧ (IsClassName name ↔ '-' ∉ given.toList) ∧
      (name ≠ "" ∧ ∀ c ∈ name.toList.head?, c.isDigit = false) ∧
      safeName name = name ∧ className name = name ∧
      ∀ feeder rs, (classLine name).toList ∈
        lines (scenarioText defaultTemplate name feeder rs).toList := by
  refine ⟨className given, by rw [name?, h, Option.map_some], isClassName_className_iff given,
    ⟨className_ne_empty given, ?_⟩, safeName_of_isWord (isWord_className given),
    className_className given,
    fun _ _ => classLine_mem_lines (isWord_className given) _ _⟩
  obtain ⟨c, cs, hname, hc⟩ := start_className given
  rw [hname]
  rintro _ ⟨⟩
  exact hc

theorem name_isClassName_overview :
    (Simulation.new (some "2024 Überblick/API")).name? = some "_2024__berblick_API" ∧
      IsClassName "_2024__berblick_API" ∧
      ∀ feeder rs, (classLine "_2024__berblick_API").toList ∈
        lines (scenarioText defaultTemplate "_2024__berblick_API" feeder rs).toList := by
  have hgiven : (Simulation.new (some "2024 Überblick/API")).outputName.or none =
      some "2024 Überblick/API" := rfl
  obtain ⟨name, hname, hclass, -, -, -, hline⟩ := name_isClassName_iff hgiven
  have hoverview : (Simulation.new (some "2024 Überblick/API")).name? =
      some "_2024__berblick_API" := by decide +kernel
  obtain rfl := Option.some.inj (hoverview.symm.trans hname)
  exact ⟨hoverview, hclass.mpr (by decide), hline⟩

/-- A hyphen is not made safe. -/
theorem name_hyphenated : (Simulation.new (some "order-api")).name? = some "order-api" ∧
    ¬ IsClassName "order-api" := by
  refine ⟨by decide +kernel, fun h => ?_⟩
  exact absurd (h.chars '-' (by decide)) (by decide)

end Simulation

end LoadScenario
