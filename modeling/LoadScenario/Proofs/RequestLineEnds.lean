import LoadScenario.Proofs.ScriptLineEnds
import LoadScenario.Request.Analysis

/-!
# Requests whose lines end with a carriage return

A collection that was written on another system has carriage returns in its header blocks and its
test scripts, and the scenario made from it should be the same. For headers it is, because a line is
trimmed before anything is done with it. For scripts what has to be shown is that each call finds
the same value: the value may have to be inferred from the script before the call, which starts at
another distance once carriage returns have come in, so the calls are taken with the text before
them instead of the distance.
-/

namespace LoadScenario

open Text

/-! ## Header blocks -/

/-- Each line is the same or has a carriage return at its end. -/
theorem Text.lines_withReturns (cs : List Char) :
    List.Forall₂ (fun line line' => line' = line ∨ line' = line ++ ['\r'])
      (lines cs) (lines (withReturns cs)) := by
  induction cs with
  | nil => exact .cons (.inl rfl) .nil
  | cons c cs ih =>
      by_cases hc : c = '\n'
      · subst hc
        have hline : ∀ cs, lines ('\n' :: cs) = [] :: lines cs := by
          intro cs
          rw [lines, List.splitOn_cons_eq_if_modifyHead, if_pos (beq_self_eq_true _), lines]
        have hreturn : lines ('\r' :: '\n' :: withReturns cs) = ['\r'] :: lines (withReturns cs) :=
          splitOn_cons_of_ne (by decide) (hline _)
        rw [withReturns_newline, hline, hreturn]
        exact .cons (.inr rfl) ih
      · rw [withReturns_cons hc]
        rw [lines, lines] at ih ⊢
        cases hparts : cs.splitOn '\n' with
        | nil => exact absurd hparts (List.splitOn_ne_nil _ _)
        | cons part parts =>
            rw [hparts] at ih
            cases ih' : (withReturns cs).splitOn '\n' with
            | nil => exact absurd ih' (List.splitOn_ne_nil _ _)
            | cons part' parts' =>
                rw [ih'] at ih
                obtain ⟨hpart, hrest⟩ := List.forall₂_cons.mp ih
                rw [splitOn_cons_of_ne hc hparts, splitOn_cons_of_ne hc ih']
                refine .cons ?_ hrest
                rcases hpart with rfl | rfl
                · exact .inl rfl
                · exact .inr rfl

theorem headerOfLine?_concat_return (line : List Char) :
    headerOfLine? (line ++ ['\r']) = headerOfLine? line := by
  rw [headerOfLine?, headerOfLine?, trim_concat_return]

theorem headerLines_withReturns (block : String) :
    headerLines (String.ofList (withReturns block.toList)) = headerLines block := by
  rw [headerLines, headerLines, String.toList_ofList]
  have hlines := lines_withReturns block.toList
  generalize lines block.toList = ls, lines (withReturns block.toList) = ls' at hlines
  induction hlines with
  | nil => rfl
  | cons hline _ ih =>
      rw [List.filterMap_cons, List.filterMap_cons, ih]
      rcases hline with rfl | rfl
      · rfl
      · rw [headerOfLine?_concat_return]

/-! ## Values of variables -/

/-- What a script keeps by setting a variable, given the script before the call. -/
def captureBehind? (before : List Char) (s : Script.Setter) : Option Capture :=
  match Script.literalText? s.value with
  | some text => some (.literal s.name (translate text))
  | none =>
    (s.jsonPath.or (Script.inferPath? before s.value.toList)).map fun path =>
      .json s.name (String.ofList (belowRoot path.toList))

/-- The calls in a script that set a variable, each with the text before it. -/
def settersBehind (script : String) : List (List Char × Script.Setter) :=
  matchesFrom [] (pieces Script.setter script.toList)

theorem setters_eq (script : String) :
    Script.setters script = (settersBehind script).map fun (before, s) => (byteLength before, s) :=
  locate_eq [] _

theorem captureOf?_eq {script : String} {before : List Char} {s : Script.Setter}
    (h : (before, s) ∈ settersBehind script) :
    captureOf? script (byteLength before) s = captureBehind? before s := by
  obtain ⟨rest, hrest⟩ := prefix_of_mem_matchesFrom h
  rw [flatMap_source_pieces, List.nil_append] at hrest
  rw [captureOf?, captureBehind?, Script.inferredPath?, ← hrest, takeBytes?_byteLength]
  rfl

/-- Whatever is made of the calls and their values can be made of the calls and the text before
them. -/
theorem filterMap_setters {α : Type} (f : Option Capture → Script.Setter → Option α)
    (script : String) :
    (Script.setters script).filterMap (fun (offset, s) => f (captureOf? script offset s) s) =
      (settersBehind script).filterMap fun (before, s) => f (captureBehind? before s) s := by
  rw [setters_eq, List.filterMap_map]
  refine List.filterMap_congr fun ⟨before, s⟩ h => ?_
  show f (captureOf? script (byteLength before) s) s = _
  rw [captureOf?_eq h]

theorem captureBehind?_withReturns {before : List Char} (h : '\x60' ∉ before)
    (s : Script.Setter) : captureBehind? (withReturns before) s = captureBehind? before s := by
  have hinfer : ∀ value, Script.inferPath? (withReturns before) value =
      Script.inferPath? before value := by
    intro value
    rw [Script.inferPath?, Script.inferPath?]
    cases haccess : Script.memberAccess? value with
    | none => rfl
    | some access =>
        obtain ⟨name, path⟩ := access
        obtain ⟨hne, hname⟩ := Script.memberAccess?_name haccess
        show (if _ then _ else _) = _
        rw [(Script.lineBlind_parsedInto hne hname).occursIn_withReturns h]
        rfl
  rw [captureBehind?, captureBehind?, hinfer]

theorem filterMap_setters_withReturns {α : Type} (f : Option Capture → Script.Setter → Option α)
    {script : String} (h : '\x60' ∉ script.toList) :
    let script' := String.ofList (withReturns script.toList)
    (Script.setters script').filterMap (fun (offset, s) => f (captureOf? script' offset s) s) =
      (Script.setters script).filterMap fun (offset, s) => f (captureOf? script offset s) s := by
  intro script'
  have hsetters : settersBehind script' =
      (settersBehind script).map fun (before, s) => (withReturns before, s) := by
    rw [settersBehind, settersBehind, String.toList_ofList,
      Script.lineBlind_setter.matchesFrom_withReturns h]
  rw [filterMap_setters, filterMap_setters, hsetters, List.filterMap_map]
  refine List.filterMap_congr fun ⟨before, s⟩ hmem => ?_
  have hbefore : '\x60' ∉ before := by
    have hbefore := prefix_of_mem_matchesFrom hmem
    rw [flatMap_source_pieces, List.nil_append] at hbefore
    exact fun hback => h (hbefore.subset hback)
  show f (captureBehind? (withReturns before) s) s = f (captureBehind? before s) s
  rw [captureBehind?_withReturns hbefore]

/-! ## Requests -/

namespace RequestRecord

/-- A request whose header block and script have a carriage return in front of each newline. -/
def withReturns (r : RequestRecord) : RequestRecord :=
  { r with
    headers := String.ofList (Text.withReturns r.headers.toList)
    tests := r.tests.map fun script => String.ofList (Text.withReturns script.toList) }

theorem headerMap_withReturns (r : RequestRecord) : r.withReturns.headerMap = r.headerMap := by
  rw [headerMap, headerMap, headersOf, headersOf, withReturns]
  simp only
  rw [headerLines_withReturns]
  rfl

theorem script_withReturns (r : RequestRecord) :
    r.withReturns.script = String.ofList (Text.withReturns r.script.toList) := by
  rw [script, script, withReturns]
  cases r.tests <;> rfl

theorem checks_withReturns {r : RequestRecord} (h : '\x60' ∉ r.script.toList) :
    r.withReturns.checks = r.checks := by
  have hassignments := Script.assignments_withReturns h
  have hcaptures := filterMap_setters_withReturns (fun capture _ => capture) h
  simp only at hcaptures
  rw [checks, checks, script_withReturns, Script.statusComparisons, Script.bodySearches,
    hassignments, hcaptures]
  rfl

/-- There is a warning where no value is kept. -/
theorem scriptWarnings_eq (r : RequestRecord) : r.scriptWarnings =
    (Script.setters r.script).filterMap fun (offset, s) =>
      (captureOf? r.script offset s).elim (some (.unreadableVariable r.name s.name))
        fun _ => none := by
  rw [scriptWarnings]
  refine List.filterMap_congr fun ⟨offset, s⟩ _ => ?_
  simp only
  cases captureOf? r.script offset s <;> rfl

theorem scriptWarnings_withReturns {r : RequestRecord} (h : '\x60' ∉ r.script.toList) :
    r.withReturns.scriptWarnings = r.scriptWarnings := by
  have hwarnings := filterMap_setters_withReturns (fun capture s =>
    capture.elim (some (Warning.unreadableVariable r.name s.name)) fun _ => none) h
  simp only at hwarnings
  have hname : r.withReturns.name = r.name := rfl
  rw [scriptWarnings_eq, scriptWarnings_eq, script_withReturns, hname, hwarnings]

/-- The request of a scenario and the warnings about it are the same for both kinds of line ends. -/
theorem analysis_ignores_line_ends (r : RequestRecord)
    (hbackquote : ∀ script, r.tests = some script → '\x60' ∉ script.toList) :
    r.withReturns.request = r.request ∧ r.withReturns.warnings = r.warnings := by
  have hscript : '\x60' ∉ r.script.toList := by
    rw [script]
    cases htests : r.tests with
    | none => exact List.not_mem_nil
    | some script => exact hbackquote script htests
  have hbody : r.withReturns.body? = r.body? := by
    rw [body?, body?, headerMap_withReturns]
    rfl
  constructor
  · rw [request, request, headerMap_withReturns, hbody, checks_withReturns hscript]
    rfl
  · rw [warnings, warnings, scriptWarnings_withReturns hscript]
    rfl

def signIn : RequestRecord where
  id := "1"
  name := "Sign in"
  method := "POST"
  url := "/session"
  headers := "Accept: */*\nContent-Disposition: attachment; filename=key.pem\n"
  bodyMode := some "binary"
  rawBody := none
  helper := none
  credentials := none
  tests := some <| "tests[\"ok\"] = responseCode.code === 200\nvar data = JSON.parse(responseBody);\n" ++
    "postman.setEnvironmentVariable(\"token\", data.token);\n"

theorem analysis_signIn : signIn.withReturns ≠ signIn ∧
    signIn.withReturns.request = signIn.request ∧
      signIn.withReturns.warnings = signIn.warnings := by
  refine ⟨by decide +kernel, analysis_ignores_line_ends signIn fun script hscript => ?_⟩
  cases hscript
  decide +kernel

end RequestRecord

end LoadScenario
