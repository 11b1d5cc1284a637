import LoadScenario.Proofs.RequestLineEnds
import LoadScenario.Proofs.RequestSequence
import LoadScenario.Proofs.SetterCalls

/-!
# What the analysis of a request adds to the log

A request can be warned about for its helper, for the mode of its body and for the calls of its
script, and the log gets these warnings in this order, behind everything that is in it. A call is
gone through in three attempts: its value may be a literal, the comment behind it may name a place,
and a place may be inferred from the script before it. `Accounted` has a case for each way in which
that can end, and in each of them the call leaves either one value or one warning, under its own
name. So the calls, the values that are kept and the warnings can be gone through side by side.
-/

namespace LoadScenario

open Script

namespace RequestRecord

/-! ## The calls of a script -/

/-- The values and the warnings that calls in the script of a request leave. -/
inductive Accounted (r : RequestRecord) : List (Nat × Setter) → List Capture → List Warning → Prop
  | nil : Accounted r [] [] []
  | text {offset s text calls captures warnings} (htext : literalText? s.value = some text)
      (later : Accounted r calls captures warnings) :
      Accounted r ((offset, s) :: calls) (.literal s.name (translate text) :: captures) warnings
  | named {offset s path calls captures warnings} (htext : literalText? s.value = none)
      (hpath : s.jsonPath = some path) (later : Accounted r calls captures warnings) :
      Accounted r ((offset, s) :: calls)
        (.json s.name (String.ofList (belowRoot path.toList)) :: captures) warnings
  | inferred {offset s path calls captures warnings} (htext : literalText? s.value = none)
      (hpath : s.jsonPath = none)
      (hinferred : inferredPath? r.script s.value offset = some path)
      (later : Accounted r calls captures warnings) :
      Accounted r ((offset, s) :: calls)
        (.json s.name (String.ofList (belowRoot path.toList)) :: captures) warnings
  | untold {offset s calls captures warnings} (htext : literalText? s.value = none)
      (hpath : s.jsonPath = none) (hinferred : inferredPath? r.script s.value offset = none)
      (later : Accounted r calls captures warnings) :
      Accounted r ((offset, s) :: calls) captures (.unreadableVariable r.name s.name :: warnings)

/-- The value that is kept of a call. -/
def kept? (r : RequestRecord) (call : Nat × Setter) : Option Capture :=
  captureOf? r.script call.1 call.2

/-- The warning about a call of which no value is kept. -/
def lost? (r : RequestRecord) (call : Nat × Setter) : Option Warning :=
  (r.kept? call).elim (some (.unreadableVariable r.name call.2.name)) fun _ => none

section

variable {r : RequestRecord} {call : Nat × Setter}

theorem lost?_of_some {c : Capture} (h : r.kept? call = some c) : r.lost? call = none := by
  rw [lost?, h]
  rfl

theorem lost?_of_none (h : r.kept? call = none) :
    r.lost? call = some (.unreadableVariable r.name call.2.name) := by
  rw [lost?, h]
  rfl

end

theorem accounted_filterMap (r : RequestRecord) (calls : List (Nat × Setter)) :
    r.Accounted calls (calls.filterMap r.kept?) (calls.filterMap r.lost?) := by
  induction calls with
  | nil => exact .nil
  | cons call calls ih =>
      obtain ⟨offset, s⟩ := call
      cases htext : literalText? s.value with
      | some text =>
          have hkept : r.kept? (offset, s) = some _ := captureOf?_text r.script offset htext
          rw [List.filterMap_cons_some hkept, List.filterMap_cons_none (lost?_of_some hkept)]
          exact .text htext ih
      | none =>
          cases hpath : s.jsonPath with
          | some path =>
              have hkept : r.kept? (offset, s) = some _ :=
                captureOf?_named r.script offset htext hpath
              rw [List.filterMap_cons_some hkept, List.filterMap_cons_none (lost?_of_some hkept)]
              exact .named htext hpath ih
          | none =>
              cases hinferred : inferredPath? r.script s.value offset with
              | some path =>
                  have hkept : r.kept? (offset, s) = some _ :=
                    captureOf?_inferred htext hpath hinferred
                  rw [List.filterMap_cons_some hkept,
                    List.filterMap_cons_none (lost?_of_some hkept)]
                  exact .inferred htext hpath hinferred ih
              | none =>
                  have hlost : r.kept? (offset, s) = none :=
                    captureOf?_untold htext hpath hinferred
                  rw [List.filterMap_cons_none hlost,
                    List.filterMap_cons_some (lost?_of_none hlost)]
                  exact .untold htext hpath hinferred ih

theorem accounted_setters (r : RequestRecord) :
    r.Accounted (setters r.script) r.request.checks.captures r.scriptWarnings := by
  rw [scriptWarnings_eq]
  exact r.accounted_filterMap (setters r.script)

/-! ## Helper and body -/

theorem helperWarnings_eq (r : RequestRecord) : r.helperWarnings =
    (r.helper.toList.filter (· ∉ ["basicAuth", "digestAuth", "normal"])).map
      (.unsupportedHelper r.name) := by
  rw [helperWarnings]
  cases r.helper with
  | none => rfl
  | some helper =>
      simp only [AuthScheme.ofHelper?, plainHelper, Option.toList_some]
      by_cases hbasic : helper = "basicAuth"
      · simp [hbasic]
      · by_cases hdigest : helper = "digestAuth"
        · simp [hdigest]
        · by_cases hnormal : helper = "normal" <;> simp [hbasic, hdigest, hnormal]

theorem bodyWarnings_eq (r : RequestRecord) : r.bodyWarnings =
    (r.bodyMode.toList.filter (· ∈ ["params", "urlencoded"])).map (.unsupportedBody r.name) := by
  rw [bodyWarnings]
  cases r.bodyMode with
  | none => rfl
  | some mode =>
      by_cases hparams : mode = "params"
      · simp [hparams]
      · by_cases hurlencoded : mode = "urlencoded" <;> simp [hparams, hurlencoded]

end RequestRecord

/-! ## The log -/

namespace Simulation

theorem snd_analyzeAll_append {c : Collection} {before : List (String × String)}
    (h : ∀ entry ∈ before, c.Carries entry.2) (rest : List (String × String)) :
    (analyzeAll c (before ++ rest)).2 = (analyzeAll c before).2 ++ (analyzeAll c rest).2 := by
  obtain ⟨records, hrecords⟩ := Collection.exists_records h
  rw [analyzeAll_append hrecords, analyzeAll_eq_ok hrecords]

theorem snd_analyzeAll_cons {c : Collection} {container id : String} {r : RequestRecord}
    (h : c.FirstWith id r) (rest : List (String × String)) :
    (analyzeAll c ((container, id) :: rest)).2 = r.warnings ++ (analyzeAll c rest).2 := by
  rw [analyzeAll, Collection.find?_eq_some_iff.mpr h]

theorem warnings_deriveRequests {s : Simulation} {c : Collection} {feeder : Feeder}
    (h : s.stage = .feederBuilt c feeder) :
    s.deriveRequests.2.warnings = s.warnings ++ (analyzeAll c c.sequence).2 := by
  simp only [deriveRequests, h]
  cases (analyzeAll c c.sequence).1 <;> rfl

/-- The analysis of a request leaves the log as it is up to then and adds what it has to say about
the helper, the body and the calls of the script. Of each call either a value is kept or a warning
is given, in the order of the script. -/
theorem analysis_accounts_for_calls {s : Simulation} {c : Collection} {feeder : Feeder}
    {before after : List (String × String)} {container id : String} {r : RequestRecord}
    (hstage : s.stage = .feederBuilt c feeder)
    (hsequence : c.sequence = before ++ (container, id) :: after)
    (hbefore : ∀ entry ∈ before, c.Carries entry.2) (hfirst : c.FirstWith id r) :
    s.deriveRequests.2.warnings = (s.warnings ++ (analyzeAll c before).2) ++
        ((r.helper.toList.filter (· ∉ ["basicAuth", "digestAuth", "normal"])).map
            (.unsupportedHelper r.name) ++
          (r.bodyMode.toList.filter (· ∈ ["params", "urlencoded"])).map (.unsupportedBody r.name) ++
          r.scriptWarnings) ++
        (analyzeAll c after).2 ∧
      r.Accounted (setters r.script) r.request.checks.captures r.scriptWarnings := by
  refine ⟨?_, r.accounted_setters⟩
  rw [warnings_deriveRequests hstage, hsequence, snd_analyzeAll_append hbefore,
    snd_analyzeAll_cons hfirst, RequestRecord.warnings, r.helperWarnings_eq, r.bodyWarnings_eq]
  simp only [List.append_assoc]

/-- A request that is warned about for each of its parts. -/
def query : RequestRecord :=
  { RequestRecord.scripted ("setGlobalVariable('a', '\x7b\x7bkey\x7d\x7d');\n" ++
      "d = JSON.parse(responseBody);\nsetGlobalVariable('b', d.b);\n" ++
      "setGlobalVariable('c', x);\nsetGlobalVariable('e', x) //JSONPath=$.e") with
    id := "2"
    name := "Query"
    helper := some "oauth1"
    bodyMode := some "params" }

/-- A collection whose third request is missing. -/
def querying : Collection :=
  ⟨"Shop", [], [.scripted "setGlobalVariable('first', 1)", query], ["1", "2", "3"]⟩

def queried : Simulation :=
  ⟨none, [], .feederBuilt querying .empty, [.missingFile "Upload" "a.txt"]⟩

theorem analysis_accounts_for_calls_queried :
    queried.deriveRequests.2.warnings =
        [.missingFile "Upload" "a.txt", .unreadableVariable "Order" "first",
          .unsupportedHelper "Query" "oauth1", .unsupportedBody "Query" "params",
          .unreadableVariable "Query" "c"] ∧
      query.Accounted (setters query.script)
        [.literal "a" "$\x7bkey\x7d", .json "b" "b", .json "e" "e"]
        [.unreadableVariable "Query" "c"] := by
  have hsequence : querying.sequence = [("Shop", "1")] ++ ("Shop", "2") :: [("Shop", "3")] := by
    decide +kernel
  have hbefore : ∀ entry ∈ [("Shop", "1")], querying.Carries entry.2 := by decide
  have hfirst : querying.FirstWith "2" query := ⟨[_], [], rfl, rfl, by decide⟩
  obtain ⟨hkept, hlost⟩ : query.request.checks.captures =
      [.literal "a" "$\x7bkey\x7d", .json "b" "b", .json "e" "e"] ∧
        query.scriptWarnings = [.unreadableVariable "Query" "c"] := by decide +kernel
  have hlogged : (analyzeAll querying [("Shop", "1")]).2 =
      [.unreadableVariable "Order" "first"] := by decide +kernel
  have hafter : (analyzeAll querying [("Shop", "3")]).2 = [] := by decide +kernel
  obtain ⟨hlog, haccounted⟩ :=
    analysis_accounts_for_calls (s := queried) rfl hsequence hbefore hfirst
  rw [hkept, hlost] at haccounted
  rw [hlog, hlogged, hlost, hafter]
  exact ⟨rfl, haccounted⟩

end Simulation

end LoadScenario
