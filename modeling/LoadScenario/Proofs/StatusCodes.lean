import LoadScenario.Proofs.SelfDelimiting
import LoadScenario.Proofs.TestAssignments
import LoadScenario.Request.Analysis
import Mathlib.Algebra.Group.Nat.Defs
import Mathlib.Data.List.Induction

/-!
# The status codes of a script

The status codes that a script asks for are collected over all of its test assignments, those that
are right and those that are wrong, each once and in the order in which they come up. Two searches
are nested here: one finds the assignments, the other finds the comparisons in each expression. The
signs that compare begin alike, two of them with the other two, so the search has to try the longer
ones first, and a code is only a code if no further digit follows.

Whatever a script looks like, no code has more than three digits.
-/

namespace LoadScenario

open Text

/-! ## What has been seen first -/

theorem firstSeen_concat (l : List Nat) (n : Nat) : firstSeen (l ++ [n]) =
    if (firstSeen l).contains n then firstSeen l else firstSeen l ++ [n] := by
  rw [firstSeen, firstSeen, List.foldl_append]
  rfl

theorem firstSeen_eq_eraseDups (l : List Nat) : firstSeen l = l.eraseDups := by
  induction l using List.reverseRecOn with
  | nil => rfl
  | append_singleton l n ih =>
      have hnew : [n].removeAll l = if l.contains n then [] else [n] := by
        rw [List.removeAll, List.filter_singleton]
        show (bif !l.contains n then [n] else []) = _
        cases l.contains n <;> rfl
      rw [firstSeen_concat, ih, List.eraseDups_append, hnew]
      have hseen : l.eraseDups.contains n = l.contains n := by
        rw [Bool.eq_iff_iff, List.contains_iff_mem, List.contains_iff_mem, List.mem_eraseDups]
      rw [hseen]
      split
      · exact (List.append_nil _).symm
      · rfl

theorem nodup_firstSeen (l : List Nat) : (firstSeen l).Nodup := by
  induction l using List.reverseRecOn with
  | nil => exact List.nodup_nil
  | append_singleton l n ih =>
      rw [firstSeen_concat]
      split
      next => exact ih
      next hnew =>
        rw [List.contains_iff_mem] at hnew
        refine List.nodup_append.mpr ⟨ih, List.pairwise_singleton _ n, ?_⟩
        rintro a ha b hb rfl
        exact hnew (List.mem_singleton.mp hb ▸ ha)

theorem mem_firstSeen {l : List Nat} {n : Nat} : n ∈ firstSeen l ↔ n ∈ l := by
  rw [firstSeen_eq_eraseDups, List.mem_eraseDups]

namespace Script

/-! ## The length of a code -/

def StatusComparison.code : StatusComparison → Nat
  | is code | isNot code => code

theorem StatusComparison.code_of_right? {a : StatusComparison} {n : Nat} (h : a.right? = some n) :
    a.code = n := by
  cases a <;> cases h
  rfl

theorem StatusComparison.code_of_wrong? {a : StatusComparison} {n : Nat} (h : a.wrong? = some n) :
    a.code = n := by
  cases a <;> cases h
  rfl

theorem decimal?_lt {digits : List Char} {n : Nat} (h : decimal? digits = some n) :
    n < 10 ^ digits.length := by
  have hfold : ∀ (ds : List Char) (k : Nat), ds.all Char.isDigit →
      ds.foldl (fun n c => 10 * n + (c.toNat - '0'.toNat)) k < (k + 1) * 10 ^ ds.length := by
    intro ds
    induction ds with
    | nil => intro k _; simp
    | cons d ds ih =>
        intro k hall
        rw [List.all_cons, Bool.and_eq_true] at hall
        have hd := (Char.isDigit_iff_toNat.mp hall.1).2
        have hnine : '9'.toNat = '0'.toNat + 9 := rfl
        calc (d :: ds).foldl (fun n c => 10 * n + (c.toNat - '0'.toNat)) k
            < (10 * k + (d.toNat - '0'.toNat) + 1) * 10 ^ ds.length := ih _ hall.2
          _ ≤ (10 * (k + 1)) * 10 ^ ds.length := Nat.mul_le_mul_right _ (by omega)
          _ = (k + 1) * 10 ^ (d :: ds).length := by
              rw [List.length_cons, Nat.pow_succ', Nat.mul_comm 10, Nat.mul_assoc]
  rw [decimal?] at h
  split at h
  next hall =>
    cases h
    simpa using hfold digits 0 hall
  next => cases h

theorem code_lt_of_statusComparison {previous : Option Char} {cs rest : List Char}
    {a : StatusComparison} (h : statusComparison previous cs = some (some a, rest)) :
    a.code < 1000 := by
  obtain ⟨cs₁, -, h⟩ := Option.bind_eq_some_iff.mp h
  obtain ⟨⟨sign, assertion⟩, hsign, h⟩ := List.exists_of_findSome?_eq_some h
  obtain ⟨cs₂, -, h⟩ := Option.bind_eq_some_iff.mp h
  obtain ⟨⟨digits, behind⟩, hdigits, h⟩ := Option.bind_eq_some_iff.mp h
  obtain ⟨hcode, -⟩ := Prod.mk.inj (Option.some.inj h)
  obtain ⟨n, hn, rfl⟩ := Option.map_eq_some_iff.mp hcode
  have hlength : digits.length ≤ 3 := by
    simp only [statusDigits] at hdigits
    split at hdigits
    next hshort =>
      obtain ⟨rfl, -⟩ := Prod.mk.inj (Option.some.inj hdigits)
      omega
    next => cases hdigits
  have hassertion : (assertion n).code = n := by
    simp only [comparisonSigns, List.mem_cons, Prod.mk.injEq, List.not_mem_nil, or_false] at hsign
    rcases hsign with ⟨-, rfl⟩ | ⟨-, rfl⟩ | ⟨-, rfl⟩ | ⟨-, rfl⟩ <;> rfl
  rw [hassertion]
  exact (decimal?_lt hn).trans_le (Nat.pow_le_pow_right (by decide) hlength)

theorem code_lt_of_mem_statusComparisons {script : String} {a : StatusComparison}
    (h : a ∈ statusComparisons script) : a.code < 1000 := by
  obtain ⟨assignment, -, h⟩ := List.mem_flatMap.mp h
  obtain ⟨found, hfound, ha⟩ := List.mem_filterMap.mp h
  obtain rfl : found = some a := ha
  obtain ⟨previous, cs, rest, hrecognized⟩ := recognized_of_mem_valuesFrom hfound
  exact code_lt_of_statusComparison hrecognized

/-! ## Tests that compare the status code -/

/-- The four signs that compare. -/
inductive ComparisonSign where
  | equal
  | identical
  | unequal
  | notIdentical

namespace ComparisonSign

def text : ComparisonSign → String
  | equal => "=="
  | identical => "==="
  | unequal => "!="
  | notIdentical => "!=="

/-- Whether the sign says that the code is wrong. -/
def negates : ComparisonSign → Bool
  | equal | identical => false
  | unequal | notIdentical => true

def assertion (s : ComparisonSign) (code : Nat) : StatusComparison :=
  if s.negates then .isNot code else .is code

end ComparisonSign

/-- A comparison of the status code with a number. -/
structure Comparison where
  sign : ComparisonSign
  code : Nat

namespace Comparison

def source (c : Comparison) : List Char :=
  "responseCode.code".toList ++ ' ' :: (c.sign.text.toList ++ ' ' :: (toString c.code).toList)

/-- Whether the code is one of those that are recognised. -/
def Recognised (c : Comparison) : Prop := 10 ≤ c.code ∧ c.code ≤ 999

instance (c : Comparison) : Decidable c.Recognised :=
  inferInstanceAs (Decidable (10 ≤ c.code ∧ c.code ≤ 999))

end Comparison

/-- A test that holds if one of some comparisons does. -/
structure StatusTest where
  name : String
  first : Comparison
  others : List Comparison

namespace StatusTest

def comparisons (t : StatusTest) : List Comparison := t.first :: t.others

def right (t : StatusTest) : List Char :=
  " || ".toList.intercalate (t.comparisons.map Comparison.source)

def line (t : StatusTest) : List Char := stored t.name t.right ++ [';']

end StatusTest

/-- A script of such tests, each on a line of its own. -/
def statusScript (ts : List StatusTest) : String :=
  String.ofList (['\n'].intercalate (ts.map StatusTest.line))

/-- The codes that the tests compare with, those of the signs that negate or those of the others. -/
def codesCompared (negated : Bool) (ts : List StatusTest) : List Nat :=
  ((ts.flatMap StatusTest.comparisons).filter (·.sign.negates = negated)).map Comparison.code

theorem ComparisonSign.right?_assertion (s : ComparisonSign) (code : Nat) :
    (s.assertion code).right? = if s.negates = false then some code else none := by
  cases s <;> rfl

theorem ComparisonSign.wrong?_assertion (s : ComparisonSign) (code : Nat) :
    (s.assertion code).wrong? = if s.negates = true then some code else none := by
  cases s <;> rfl

theorem filterMap_assertion {negated : Bool} {read : StatusComparison → Option Nat}
    (hread : ∀ (s : ComparisonSign) (code : Nat),
      read (s.assertion code) = if s.negates = negated then some code else none)
    (cs : List Comparison) : (cs.map fun c => c.sign.assertion c.code).filterMap read =
      (cs.filter (·.sign.negates = negated)).map Comparison.code := by
  induction cs with
  | nil => rfl
  | cons c cs ih =>
      rw [List.map_cons, List.filterMap_cons, hread, List.filter_cons, ih]
      by_cases hnegates : c.sign.negates = negated
      · simp only [hnegates, if_true, decide_true, List.map_cons]
      · simp only [hnegates, if_false, decide_false, Bool.false_eq_true]

/-! ## The search for comparisons -/

theorem isDigit_of_ascii {c : Char} (h : c.isDigit = true) : Text.isDigit c = true := by
  obtain ⟨hlow, hhigh⟩ := Char.isDigit_iff_toNat.mp h
  have hlow' : ¬ c.toNat < 0x30 := Nat.not_lt.mpr hlow
  have hhigh' : c.toNat ≤ 0x39 := hhigh
  rw [Text.isDigit, digitRanges, Ranges.contains, if_neg hlow', decide_eq_true hhigh',
    Bool.true_or]

theorem decimal?_number (n : Nat) : decimal? (toString n).toList = some n := by
  have hdigits : (toString n).toList.all Char.isDigit = true :=
    List.all_eq_true.mpr fun _ => isDigit_of_mem_number
  rw [decimal?, if_pos hdigits, Nat.toString_eq_repr, Nat.toList_repr]
  exact congrArg some Nat.ofDigitChars_ten_toDigits

theorem number_ne_nil (n : Nat) : (toString n).toList ≠ [] := by
  rw [Nat.toString_eq_repr, Nat.toList_repr]
  exact Nat.toDigits_ne_nil

theorem unpadded_number (n : Nat) : Unpadded (toString n).toList := by
  have hplain : ∀ c ∈ (toString n).toList, isBlank c = false := by
    intro c hc
    obtain ⟨hlow, hhigh⟩ := Char.isDigit_iff_toNat.mp (isDigit_of_mem_number hc)
    have hlow' : 0x30 ≤ c.toNat := hlow
    have hhigh' : c.toNat ≤ 0x39 := hhigh
    simp only [isBlank, blankRanges, Ranges.contains]
    grind
  exact ⟨fun c hc => hplain c (List.mem_of_head? hc),
    fun c hc => hplain c (List.mem_of_getLast? hc)⟩

theorem statusDigits_number {n : Nat} (h : 10 ≤ n ∧ n ≤ 999) {rest : List Char}
    (hrest : ∀ c ∈ rest.head?, c = ' ') :
    statusDigits ((toString n).toList ++ rest) = some ((toString n).toList, rest) := by
  have hdigits : ∀ c ∈ (toString n).toList, Text.isDigit c = true :=
    fun c hc => isDigit_of_ascii (isDigit_of_mem_number hc)
  obtain ⟨htake, hdrop⟩ := span_append hdigits rest fun c hc => by
    rw [hrest c hc]
    decide
  have hword : isWord? rest.head? = false := by
    cases rest with
    | nil => rfl
    | cons c rest =>
        obtain rfl := hrest c rfl
        show isWord ' ' = false
        decide
  have hlength : (toString n).toList.length = 2 ∨ (toString n).toList.length = 3 := by
    rw [Nat.toString_eq_repr, Nat.toList_repr]
    have hlong : ¬ (Nat.toDigits 10 n).length ≤ 1 := by
      rw [Nat.length_toDigits_le_iff (by decide) (by decide)]
      omega
    have hshort : (Nat.toDigits 10 n).length ≤ 3 := by
      rw [Nat.length_toDigits_le_iff (by decide) (by decide)]
      omega
    omega
  simp only [statusDigits, htake, hdrop, hword]
  exact if_pos ⟨hlength, Bool.false_ne_true⟩

namespace ComparisonSign

/-- Of the signs that compare, the first that fits is the one that is there. -/
theorem comparisonSigns_eq (s : ComparisonSign) : ∃ longer others,
    comparisonSigns = longer ++ (s.text.toList, s.assertion) :: others ∧
      ∀ p ∈ longer, ∀ cs, expect p.1 (s.text.toList ++ ' ' :: cs) = none := by
  cases s with
  | identical => exact ⟨[], _, rfl, nofun⟩
  | equal =>
      refine ⟨comparisonSigns.take 1, _, rfl, fun p hp cs => ?_⟩
      obtain rfl := List.mem_singleton.mp hp
      rfl
  | notIdentical =>
      refine ⟨comparisonSigns.take 2, _, rfl, fun p hp cs => ?_⟩
      rcases List.mem_cons.mp hp with rfl | hp
      · rfl
      · obtain rfl := List.mem_singleton.mp hp
        rfl
  | unequal =>
      refine ⟨comparisonSigns.take 3, _, rfl, fun p hp cs => ?_⟩
      rcases List.mem_cons.mp hp with rfl | hp
      · rfl
      · rcases List.mem_cons.mp hp with rfl | hp
        · rfl
        · obtain rfl := List.mem_singleton.mp hp
          rfl

theorem text_cons (s : ComparisonSign) : ∃ c cs, s.text.toList = c :: cs ∧ isBlank c = false := by
  cases s <;> exact ⟨_, _, rfl, by decide⟩

theorem findSome?_comparisonSigns {β : Type} (s : ComparisonSign) {cs : List Char}
    (read : (Nat → StatusComparison) → List Char → Option β) {b : β}
    (hread : read s.assertion (' ' :: cs) = some b) :
    comparisonSigns.findSome? (fun p => (expect p.1 (s.text.toList ++ ' ' :: cs)).bind (read p.2)) =
      some b := by
  obtain ⟨longer, others, hsigns, hlonger⟩ := s.comparisonSigns_eq
  have hfits : expect s.text.toList (s.text.toList ++ ' ' :: cs) = some (' ' :: cs) :=
    expect_eq_some_iff.mpr rfl
  have hnone : longer.findSome? (fun p =>
      (expect p.1 (s.text.toList ++ ' ' :: cs)).bind (read p.2)) = none := by
    rw [List.findSome?_eq_none_iff]
    intro p hp
    rw [hlonger p hp cs, Option.bind_none]
  rw [hsigns, List.findSome?_append, hnone, Option.none_or, List.findSome?_cons, hfits,
    Option.bind_some, hread]

end ComparisonSign

theorem statusComparison_source {c : Comparison} (h : c.Recognised) (previous : Option Char)
    {rest : List Char} (hrest : ∀ d ∈ rest.head?, d = ' ') :
    statusComparison previous (c.source ++ rest) =
      some (some (c.sign.assertion c.code), rest) := by
  have hsource : c.source ++ rest = "responseCode.code".toList ++ ' ' :: (c.sign.text.toList ++
      ' ' :: ((toString c.code).toList ++ rest)) := by
    show ("responseCode.code".toList ++ ' ' :: (c.sign.text.toList ++ ' ' :: _)) ++ rest = _
    simp only [List.append_assoc, List.cons_append]
  have hsign : ∀ cs, skipBlank (' ' :: (c.sign.text.toList ++ cs)) = c.sign.text.toList ++ cs := by
    intro cs
    obtain ⟨d, ds, htext, hd⟩ := c.sign.text_cons
    rw [skipBlank_blank (by decide), htext, List.cons_append, skipBlank_cons hd]
  have hcode : skipBlank (' ' :: ((toString c.code).toList ++ rest)) =
      (toString c.code).toList ++ rest := by
    rw [skipBlank_blank (by decide)]
    refine skipBlank_of_head ?_
    rw [List.head?_append_of_ne_nil _ (number_ne_nil c.code)]
    exact (unpadded_number c.code).first
  rw [hsource, statusComparison, expect_eq_some_iff.mpr rfl]
  simp only [Option.bind_eq_bind, Option.bind_some]
  rw [hsign]
  refine c.sign.findSome?_comparisonSigns (fun assertion cs =>
    (statusDigits (skipBlank cs)).bind fun p => some ((decimal? p.1).map assertion, p.2)) ?_
  rw [hcode, statusDigits_number h hrest, Option.bind_some, decimal?_number]
  rfl

theorem statusComparison_of_ne {c : Char} (hc : c ≠ 'r') (previous : Option Char)
    (cs : List Char) : statusComparison previous (c :: cs) = none := by
  have hword : "responseCode.code".toList = 'r' :: "esponseCode.code".toList := rfl
  rw [statusComparison, hword, expect_cons_of_ne hc]
  rfl

namespace StatusTest

variable {t : StatusTest}

/-- Each comparison of a test is found, and nothing else. -/
theorem findAll_statusComparison (h : ∀ c ∈ t.comparisons, c.Recognised) :
    findAll statusComparison t.right =
      t.comparisons.map fun c => some (c.sign.assertion c.code) := by
  have hseparator : ∀ c ∈ " || ".toList, ∀ previous cs,
      statusComparison previous (c :: cs) = none :=
    fun c hc => statusComparison_of_ne (by rintro rfl; exact absurd hc (by decide))
  refine valuesFrom_intercalate hseparator (fun c hc previous behind hbehind => ?_) none
  have hspace : ∀ d ∈ behind.head?, d = ' ' := by
    rcases hbehind with rfl | ⟨rest, rfl⟩ <;> rintro _ ⟨⟩
    rfl
  exact ⟨_, valuesFrom_found (List.append_ne_nil_of_right_ne_nil _ (List.cons_ne_nil _ _))
    (statusComparison_source (h c hc) previous hspace)⟩

/-! ## The search for assignments -/

theorem whole_source (c : Comparison) : Whole c.source := by
  have hword : Whole ("responseCode.code".toList ++ [' ']) := whole_of_plain (by decide)
  have hsign : Whole (c.sign.text.toList ++ [' ']) := by
    cases c.sign <;> exact whole_of_plain (by decide)
  have hcode : Whole (toString c.code).toList := by
    refine whole_of_plain fun d hd => ?_
    have hdigit := isDigit_of_mem_number hd
    refine ⟨?_, ?_⟩
    · rintro (rfl | rfl) <;> exact absurd hdigit (by decide)
    · cases hquote : Quote.ofChar? d with
      | none => rfl
      | some q =>
          obtain rfl := Quote.ofChar?_eq_some_iff.mp hquote
          cases q <;> exact absurd hdigit (by decide)
  have hsource := hword.append (hsign.append hcode)
  simp only [List.append_assoc, List.singleton_append] at hsource
  exact hsource

theorem whole_right (t : StatusTest) : Whole t.right := by
  refine .intercalate (whole_of_plain (by decide)) fun part hpart => ?_
  obtain ⟨c, -, rfl⟩ := List.mem_map.mp hpart
  exact whole_source c

theorem unpadded_right (t : StatusTest) : Unpadded t.right := by
  refine .intercalate fun part hpart => ?_
  obtain ⟨c, -, rfl⟩ := List.mem_map.mp hpart
  refine ⟨List.append_ne_nil_of_right_ne_nil _ (List.cons_ne_nil _ _), ?_⟩
  have hword : Unpadded "responseCode.code".toList := by decide
  have hsource := hword.between (List.cons_ne_nil _ _) (unpadded_number c.code)
    (number_ne_nil c.code) (' ' :: (c.sign.text.toList ++ [' ']))
  simp only [List.append_assoc, List.cons_append, List.nil_append] at hsource
  exact hsource

end StatusTest

theorem statusComparisons_statusScript {ts : List StatusTest} {ending : String}
    (hending : ∀ c ∈ ending.toList, c = '\n')
    (h : ∀ t ∈ ts, '\n' ∉ t.name.toList ∧ ∀ c ∈ t.comparisons, c.Recognised) :
    statusComparisons (statusScript ts ++ ending) =
      (ts.flatMap StatusTest.comparisons).map fun c => c.sign.assertion c.code := by
  have hassignments := findAll_assignment StatusTest.name StatusTest.right
    (fun t ht => ⟨(h t ht).1, t.whole_right, t.unpadded_right⟩) hending
  have hscript : assignments (statusScript ts ++ ending) =
      ts.map fun t => storedAssignment t.name t.right := by
    rw [assignments, String.toList_append, statusScript, String.toList_ofList]
    exact hassignments
  rw [statusComparisons, hscript, List.flatMap_map, List.map_flatMap]
  refine List.flatMap_congr fun t ht => ?_
  show (findAll statusComparison (String.ofList t.right).toList).filterMap id = _
  rw [String.toList_ofList, StatusTest.findAll_statusComparison (h t ht).2, List.filterMap_map]
  exact congrFun List.filterMap_eq_map' t.comparisons

end Script

namespace RequestRecord

open Script

/-- The codes that tests compare with are the codes of the scenario, those of `==` and `===` and
those of `!=` and `!==`, each once and in the order in which they come up first. No script, whatever
it looks like, gives a code twice or one of more than three digits. -/
theorem status_codes_exact (r : RequestRecord) :
    (∀ (ts : List StatusTest) (ending : String), r.tests = some (statusScript ts ++ ending) →
      (∀ c ∈ ending.toList, c = '\n') →
      (∀ t ∈ ts, '\n' ∉ t.name.toList ∧ ∀ c ∈ t.comparisons, c.Recognised) →
      r.request.checks.status = (codesCompared false ts).eraseDups ∧
        r.request.checks.notStatus = (codesCompared true ts).eraseDups) ∧
    r.request.checks.status.Nodup ∧ r.request.checks.notStatus.Nodup ∧
    ∀ code, code ∈ r.request.checks.status ∨ code ∈ r.request.checks.notStatus → code < 1000 := by
  refine ⟨fun ts ending hscript hending h => ?_, nodup_firstSeen _, nodup_firstSeen _, ?_⟩
  · have hcodes : statusComparisons r.script =
        (ts.flatMap StatusTest.comparisons).map fun c => c.sign.assertion c.code := by
      rw [script, hscript, Option.getD_some, statusComparisons_statusScript hending h]
    constructor
    · show firstSeen ((statusComparisons r.script).filterMap (·.right?)) = _
      rw [firstSeen_eq_eraseDups, hcodes, filterMap_assertion ComparisonSign.right?_assertion]
      rfl
    · show firstSeen ((statusComparisons r.script).filterMap (·.wrong?)) = _
      rw [firstSeen_eq_eraseDups, hcodes, filterMap_assertion ComparisonSign.wrong?_assertion]
      rfl
  · rintro code (hcode | hcode)
    · obtain ⟨a, ha, hright⟩ := List.mem_filterMap.mp (mem_firstSeen.mp hcode)
      rw [← StatusComparison.code_of_right? hright]
      exact code_lt_of_mem_statusComparisons ha
    · obtain ⟨a, ha, hwrong⟩ := List.mem_filterMap.mp (mem_firstSeen.mp hcode)
      rw [← StatusComparison.code_of_wrong? hwrong]
      exact code_lt_of_mem_statusComparisons ha

/-- Tests with names and comparisons that look like each other. -/
def guards : List StatusTest :=
  [⟨"tests[\"x\"] = responseCode.code == 999;", ⟨.identical, 201⟩,
      [⟨.equal, 200⟩, ⟨.unequal, 404⟩]⟩,
    ⟨"'] = \\", ⟨.equal, 201⟩, []⟩, ⟨"|| ;", ⟨.notIdentical, 50⟩, [⟨.unequal, 404⟩]⟩]

def guarded : RequestRecord where
  id := "1"
  name := "Order"
  method := "POST"
  url := "/orders"
  headers := ""
  bodyMode := none
  rawBody := none
  helper := none
  credentials := none
  tests := some (statusScript guards ++ "\n")

theorem status_codes_guarded : guarded.request.checks.status = [201, 200] ∧
    guarded.request.checks.notStatus = [404, 50] :=
  (status_codes_exact guarded).1 guards "\n" rfl (by decide)
    (by decide)

end RequestRecord

end LoadScenario
