import LoadScenario.Proofs.CheckReading
import LoadScenario.Proofs.SourceLiterals
import LoadScenario.Proofs.TestAssignments
import LoadScenario.Request.Analysis
import Mathlib.Data.List.Forall2

/-!
# A searched text, from the script to the scenario

A text that a test looks for in the body goes through four ways of quoting. The script holds it as
a literal, the reader of scripts takes the backslashes away, the pattern puts others in front of
what means something in a regular expression, and the scenario holds the pattern as a literal again.
A reader of the scenario goes the last two steps back. What it arrives at is the text itself, for
every text without a newline, whether or not the text looks like the end of a literal, of an
assignment or of another call.

In the script two searches are nested, and they agree because both take a literal as a whole: the
search for assignments finds an expression that goes on to the end of the line, and the search for
calls in it finds one call for each literal.
-/

namespace LoadScenario

open Text

namespace Script

/-! ## Tests that look for texts -/

structure SearchTest where
  name : String
  texts : List String

def searchCall (s : String) : List Char :=
  "responseBody.has".toList ++ '(' :: (Quote.double.quoted s.toList ++ [')'])

namespace SearchTest

def right (t : SearchTest) : List Char := " && ".toList.intercalate (t.texts.map searchCall)

def source (t : SearchTest) : List Char :=
  "tests".toList ++ '[' :: (Quote.double.quoted t.name.toList ++ ("] = ".toList ++ t.right))

def line (t : SearchTest) : List Char := t.source ++ [';']

def assignment (t : SearchTest) : Assignment :=
  ⟨String.ofList (t.name.toList.flatMap Quote.double.escape), String.ofList t.right⟩

end SearchTest

/-- A script of such tests, each on a line of its own. -/
def searchScript (ts : List SearchTest) : String :=
  String.ofList (['\n'].intercalate (ts.map SearchTest.line))

/-! ## The search for calls -/

theorem searchCall_append (s : String) (rest : List Char) : searchCall s ++ rest =
    "responseBody.has".toList ++ '(' :: (Quote.double.quoted s.toList ++ ')' :: rest) := by
  show ("responseBody.has".toList ++ _) ++ rest = _
  rw [List.append_assoc, List.cons_append, List.append_assoc, List.singleton_append]

theorem searchCall_ne_nil (s : String) : searchCall s ≠ [] :=
  fun hnil => absurd (List.append_eq_nil_iff.mp hnil).2 (List.cons_ne_nil _ _)

theorem bodySearch_searchCall {s : String} (h : '\n' ∉ s.toList) (previous : Option Char)
    (rest : List Char) : bodySearch previous (searchCall s ++ rest) = some (s, rest) := by
  rw [searchCall_append, bodySearch, expect_eq_some_iff.mpr rfl]
  simp only [Option.bind_eq_bind, Option.bind_some]
  rw [expect_blank (by decide), Option.bind_some, skipBlank_quoted,
    literal_quoted anyLine .double (fun _ => h), Option.bind_some, expect_blank (by decide),
    Option.bind_some, Quote.withoutEscapes_escaped, String.ofList_toList]
  rfl

theorem bodySearch_of_ne {c : Char} (hc : c ≠ 'r') (previous : Option Char) (cs : List Char) :
    bodySearch previous (c :: cs) = none := by
  have hword : "responseBody.has".toList = 'r' :: "esponseBody.has".toList := rfl
  rw [bodySearch, hword, expect_cons_of_ne hc]
  rfl

/-- Each text of a test is found, and nothing else. -/
theorem findAll_bodySearch {t : SearchTest} (h : ∀ s ∈ t.texts, '\n' ∉ s.toList) :
    findAll bodySearch t.right = t.texts := by
  have hseparator : ∀ c ∈ " && ".toList, ∀ previous cs, bodySearch previous (c :: cs) = none :=
    fun c hc => bodySearch_of_ne (by rintro rfl; exact absurd hc (by decide))
  have hcalls : findAll bodySearch t.right = t.texts.map id :=
    valuesFrom_intercalate hseparator (fun s hs previous rest _ =>
      ⟨_, valuesFrom_found (searchCall_ne_nil s) (bodySearch_searchCall (h s hs) previous rest)⟩)
      none
  rw [hcalls, List.map_id]

/-! ## The search for assignments -/

theorem whole_searchCall {s : String} (h : '\n' ∉ s.toList) : Whole (searchCall s) := by
  have hword : Whole ("responseBody.has".toList ++ ['(']) := whole_of_plain (by decide)
  have hend : Whole [')'] := whole_of_plain (by decide)
  have hcall := hword.append ((whole_quoted .double h).append hend)
  rw [List.append_assoc] at hcall
  exact hcall

namespace SearchTest

variable {t : SearchTest}

theorem whole_right (h : ∀ s ∈ t.texts, '\n' ∉ s.toList) : Whole t.right := by
  refine .intercalate (whole_of_plain (by decide)) fun part hpart => ?_
  obtain ⟨s, hs, rfl⟩ := List.mem_map.mp hpart
  exact whole_searchCall (h s hs)

theorem unpadded_right (t : SearchTest) : Unpadded t.right := by
  refine .intercalate fun part hpart => ?_
  obtain ⟨s, -, rfl⟩ := List.mem_map.mp hpart
  have hends : searchCall s =
      'r' :: ("esponseBody.has".toList ++ '(' :: Quote.double.quoted s.toList ++ [')']) := by
    rw [List.append_assoc]
    rfl
  refine ⟨searchCall_ne_nil s, ?_⟩
  rw [hends]
  exact unpadded_of_ends (by decide) (by decide) _

end SearchTest

theorem assignments_searchScript {ts : List SearchTest} (h : ∀ t ∈ ts, '\n' ∉ t.name.toList ∧
    ∀ s ∈ t.texts, '\n' ∉ s.toList) :
    assignments (searchScript ts) = ts.map SearchTest.assignment := by
  have hfound := findAll_assignment SearchTest.name SearchTest.right
    (fun t ht => ⟨(h t ht).1, SearchTest.whole_right (h t ht).2, t.unpadded_right⟩)
    (List.forall_mem_nil _)
  rw [List.append_nil] at hfound
  rw [assignments, searchScript, String.toList_ofList]
  exact hfound

theorem bodySearches_searchScript {ts : List SearchTest} (h : ∀ t ∈ ts, '\n' ∉ t.name.toList ∧
    ∀ s ∈ t.texts, '\n' ∉ s.toList) :
    bodySearches (searchScript ts) = ts.flatMap SearchTest.texts := by
  rw [bodySearches, assignments_searchScript h, List.flatMap_map]
  refine List.flatMap_congr fun t ht => ?_
  show findAll bodySearch (String.ofList t.right).toList = t.texts
  rw [String.toList_ofList, findAll_bodySearch (h t ht).2]

end Script

/-! ## Patterns -/

/-- The characters that mean something in a regular expression wherever they stand. -/
def metacharacters : List Char :=
  ['\\', '^', '$', '.', '|', '?', '*', '+', '(', ')', '[', ']', '\x7b', '\x7d']

/-- The text that a pattern matches, if it matches just one: each character that means something
stands behind a backslash, and no backslash gives a meaning to a letter or a digit. -/
def matchedText? : List Char → Option (List Char)
  | [] => some []
  | [c] => if metacharacters.contains c then none else some [c]
  | c :: d :: cs =>
    if c = '\\' then
      if d.isAlphanum then none else (matchedText? cs).map (d :: ·)
    else if metacharacters.contains c then
      none
    else
      (matchedText? (d :: cs)).map (c :: ·)

theorem matchedText?_plain {c : Char} (hc : metacharacters.contains c = false) (cs : List Char) :
    matchedText? (c :: cs) = (matchedText? cs).map (c :: ·) := by
  have hmeta : ¬ metacharacters.contains c = true := by rw [hc]; exact Bool.false_ne_true
  cases cs with
  | nil => exact if_neg hmeta
  | cons d cs =>
      have hslash : c ≠ '\\' := by
        rintro rfl
        exact hmeta (by decide)
      rw [matchedText?, if_neg hslash, if_neg hmeta]

theorem matchedText?_escaped {c : Char} (hc : c.isAlphanum = false) (cs : List Char) :
    matchedText? ('\\' :: c :: cs) = (matchedText? cs).map (c :: ·) := by
  rw [matchedText?, if_pos rfl, if_neg (by rw [hc]; exact Bool.false_ne_true)]

theorem matchedText?_metacharacter {c : Char} (hc : metacharacters.contains c = true)
    (hslash : c ≠ '\\') (cs : List Char) : matchedText? (c :: cs) = none := by
  cases cs with
  | nil => exact if_pos hc
  | cons d cs => rw [matchedText?, if_neg hslash, if_pos hc]

theorem matchedText?_patternOf (s : String) :
    matchedText? (patternOf s).toList = some s.toList := by
  have hsigns : ∀ c ∈ patternSigns, c.isAlphanum = false := by decide
  have hmeta : ∀ c ∈ metacharacters, c ∈ patternSigns := by decide
  rw [patternOf, String.toList_ofList]
  induction s.toList with
  | nil => rfl
  | cons c cs ih =>
      rw [List.flatMap_cons, patternChar]
      split
      next hsign =>
        have hc := hsigns c (List.contains_iff_mem.mp hsign)
        rw [List.cons_append, List.cons_append, matchedText?_escaped hc, List.nil_append, ih]
        rfl
      next hplain =>
        have hc : metacharacters.contains c = false := by
          rw [Bool.eq_false_iff]
          exact fun h => hplain (List.contains_iff_mem.mpr (hmeta c (List.contains_iff_mem.mp h)))
        rw [List.cons_append, matchedText?_plain hc, List.nil_append, ih]
        rfl

/-- A pattern for one text has no reference in it. -/
theorem not_infix_of_matchedText? {pattern cs : List Char} (h : matchedText? pattern = some cs) :
    ¬ ['$', '\x7b'] <:+: pattern := by
  fun_induction matchedText? pattern generalizing cs with
  | case1 => exact fun hinfix => absurd (List.infix_nil.mp hinfix) (List.cons_ne_nil _ _)
  | case2 => cases h
  | case3 => exact fun hinfix => absurd hinfix.length_le (Nat.not_succ_le_self 1)
  | case4 => cases h
  | case5 d cs' hd ih =>
      obtain ⟨text, hrest, -⟩ := Option.map_eq_some_iff.mp h
      rw [List.infix_cons_iff, List.infix_cons_iff]
      rintro (hfirst | hsecond | hinfix)
      · exact absurd (List.cons_prefix_cons.mp hfirst).1 (by decide)
      · -- The brace behind an escaped sign would have to be escaped itself.
        obtain ⟨behind, rfl⟩ := (List.cons_prefix_cons.mp hsecond).2
        rw [List.singleton_append, matchedText?_metacharacter (by decide) (by decide)] at hrest
        cases hrest
      · exact ih hrest hinfix
  | case6 => cases h
  | case7 c d cs' hslash hc ih =>
      obtain ⟨text, hrest, -⟩ := Option.map_eq_some_iff.mp h
      rw [List.infix_cons_iff, List.cons_prefix_cons]
      rintro (⟨rfl, -⟩ | hinfix)
      · exact hc (by decide)
      · exact ih hrest hinfix

/-! ## Reading a rendered search -/

namespace Scenario

/-- The text that a check looks for in the body, read from the scenario. -/
def searchedText? (check : String) : Option String :=
  (expect "regex(\"".toList check.toList).bind fun quoted =>
    match literalValue? quoted with
    | some (pattern, behind) =>
      if behind = ").exists".toList then (matchedText? pattern).map String.ofList else none
    | none => none

theorem searchedText?_text (e : Expression) :
    searchedText? e.text = e.pattern?.bind fun pattern =>
      (matchedText? pattern.toList).map String.ofList := by
  have hother : ∀ k : Keyword, k ≠ .regex → ∀ cs,
      expect "regex(\"".toList (k.text.toList ++ cs) = none := by
    intro k hk cs
    cases k <;> first | exact absurd rfl hk | rfl
  rw [searchedText?, Expression.text_toList]
  cases e with
  | matching pattern =>
      have hquoted : Keyword.regex.text.toList ++ (Expression.matching pattern).rest.toList =
          "regex(\"".toList ++ (pattern.toList.flatMap escapeChar ++ '"' :: ").exists".toList) := by
        rw [Expression.rest, String.toList_append, literal_toList]
        simp only [Keyword.text, String.reduceToList, List.append_assoc, List.cons_append,
          List.nil_append]
      rw [Expression.keyword, hquoted, expect_eq_some_iff.mpr rfl, Option.bind_some,
        literalValue?_escaped]
      exact if_pos rfl
  | statusIs | statusIn | statusNot | keeping | keepingAt =>
      rw [Expression.keyword, hother _ (by decide)]
      rfl

theorem searchedTexts_checkCalls (c : Checks) : (checkCalls c).filterMap searchedText? =
    c.bodyHas.filterMap fun pattern => (matchedText? pattern.toList).map String.ofList := by
  have hpatterns : (Expression.ofChecks c).filterMap Expression.pattern? = c.bodyHas :=
    congrArg Checks.bodyHas (Expression.checksOf_ofChecks c)
  rw [checkCalls_eq, List.filterMap_map, ← hpatterns, List.filterMap_filterMap]
  exact congrArg (List.filterMap · _) (funext searchedText?_text)

end Scenario

namespace RequestRecord

open Script Scenario

/-- A text that a test looks for in the body is the text that the scenario looks for. -/
theorem searched_texts_exact (r : RequestRecord) (ts : List SearchTest)
    (hscript : r.tests = some (searchScript ts))
    (hlines : ∀ t ∈ ts, '\n' ∉ t.name.toList ∧ ∀ s ∈ t.texts, '\n' ∉ s.toList) :
    List.Forall₂ (fun pattern s => matchedText? pattern.toList = some s.toList ∧
        ¬ ['$', '\x7b'] <:+: pattern.toList)
      r.request.checks.bodyHas (ts.flatMap SearchTest.texts) ∧
    (checkCalls r.request.checks).filterMap searchedText? = ts.flatMap SearchTest.texts := by
  have hbody : r.request.checks.bodyHas = (ts.flatMap SearchTest.texts).map patternOf := by
    show (bodySearches r.script).map patternOf = _
    rw [script, hscript, Option.getD_some, bodySearches_searchScript hlines]
  constructor
  · rw [hbody, List.forall₂_map_left_iff, List.forall₂_same]
    exact fun s _ =>
      ⟨matchedText?_patternOf s, not_infix_of_matchedText? (matchedText?_patternOf s)⟩
  · rw [searchedTexts_checkCalls, hbody, List.filterMap_map]
    have hread : (fun pattern : String => (matchedText? pattern.toList).map String.ofList) ∘
        patternOf = some := by
      funext s
      rw [Function.comp_apply, matchedText?_patternOf, Option.map_some, String.ofList_toList]
    rw [hread, List.filterMap_some]

/-- Tests whose names and texts look like the ends of literals, of assignments and of patterns. -/
def hunts : List SearchTest :=
  [⟨"has \"id\"", ["a.b[0]", "\\\"); tests[\"x\"] = $\x7bid\x7d"]⟩,
    ⟨"none", []⟩, ⟨"\\", ["responseBody.has(\"y\") && ';"]⟩]

def hunting : RequestRecord where
  id := "1"
  name := "Hunt"
  method := "GET"
  url := "/"
  headers := ""
  bodyMode := none
  rawBody := none
  helper := none
  credentials := none
  tests := some (searchScript hunts)

theorem searched_texts_hunting :
    (checkCalls hunting.request.checks).filterMap searchedText? =
      ["a.b[0]", "\\\"); tests[\"x\"] = $\x7bid\x7d", "responseBody.has(\"y\") && ';"] :=
  (searched_texts_exact hunting hunts rfl (by decide)).2

end RequestRecord

end LoadScenario
