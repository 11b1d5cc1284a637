import LoadScenario.Proofs.MatchPlaces
import LoadScenario.Proofs.QuotedText
import LoadScenario.Proofs.SetterCalls
import LoadScenario.Proofs.WhiteSpace
import LoadScenario.Script.Parsed

/-!
# Entries that are assigned to

An assignment begins with an entry of the table of tests and a sign, and behind the sign there is
always an expression, if only an empty one. So whether something is an assignment is decided by its
entry alone (`assignment_eq`), and the entry can be said without the reader: four fixed characters
around a literal, and white space between them (`entryAt?_eq_some_iff`).

Nothing else is looked at. What stands before `tests` may make it the end of a longer name, and
what stands behind the sign may make it a sign of comparison; an entry that no earlier assignment
covers is taken all the same. So only entries proper are taken just if all that is not covered is
an entry proper.
-/

namespace LoadScenario.Script

open Text

/-- An entry of the table of tests, as it is written with the sign behind it. -/
structure Entry where
  beforeBracket : List Char
  beforeName : List Char
  quote : Quote
  name : List Char
  afterName : List Char
  beforeSign : List Char

namespace Entry

def text (e : Entry) : List Char :=
  "tests".toList ++ (e.beforeBracket ++ '[' :: (e.beforeName ++ e.quote.char :: (e.name ++
    e.quote.char :: (e.afterName ++ ']' :: (e.beforeSign ++ ['='])))))

structure Readable (e : Entry) : Prop where
  beforeBracket : ∀ c ∈ e.beforeBracket, isBlank c
  beforeName : ∀ c ∈ e.beforeName, isBlank c
  name : LiteralText e.quote e.quote.oneLine e.name
  afterName : ∀ c ∈ e.afterName, isBlank c
  beforeSign : ∀ c ∈ e.beforeSign, isBlank c

theorem text_append (e : Entry) (right : List Char) : e.text ++ right =
    "tests".toList ++ (e.beforeBracket ++ '[' :: (e.beforeName ++ e.quote.char :: (e.name ++
      e.quote.char :: (e.afterName ++ ']' :: (e.beforeSign ++ '=' :: right))))) := by
  show ("tests".toList ++ _) ++ right = _
  simp only [List.append_assoc, List.cons_append, List.nil_append]

end Entry

/-! ## Reading an entry -/

/-- The name in an entry at the front of a text, and the text behind the sign. -/
def entryAt? (cs : List Char) : Option (List Char × List Char) := do
  let cs ← expect "tests".toList cs
  let cs ← expect ['['] (skipBlank cs)
  let (name, cs) ← literal Quote.oneLine (skipBlank cs)
  let cs ← expect [']'] (skipBlank cs)
  let cs ← expect ['='] (skipBlank cs)
  return (name, cs)

/-- What is recognised if there is an entry. -/
def assigned (name right : List Char) : Assignment × List Char :=
  (⟨String.ofList name, String.ofList (trim (expression (skipBlank right)).1)⟩,
    (expression (skipBlank right)).2)

theorem assignment_eq (previous : Option Char) (cs : List Char) :
    assignment previous cs = (entryAt? cs).map fun (name, right) => assigned name right := by
  simp only [assignment, entryAt?, Option.bind_eq_bind, Option.map_bind, Function.comp_def]
  rfl

theorem entryAt?_eq_some_iff {cs name right : List Char} :
    entryAt? cs = some (name, right) ↔
      ∃ e : Entry, e.Readable ∧ e.name = name ∧ cs = e.text ++ right := by
  constructor
  · intro h
    obtain ⟨cs₁, htests, h⟩ := Option.bind_eq_some_iff.mp h
    obtain ⟨cs₂, hopen, h⟩ := Option.bind_eq_some_iff.mp h
    obtain ⟨⟨name', cs₃⟩, hliteral, h⟩ := Option.bind_eq_some_iff.mp h
    obtain ⟨cs₄, hclose, h⟩ := Option.bind_eq_some_iff.mp h
    obtain ⟨cs₅, hsign, h⟩ := Option.bind_eq_some_iff.mp h
    cases h
    obtain ⟨gap₁, hgap₁, rfl⟩ := exists_gap_of_expect hopen
    obtain ⟨gap₂, hgap₂, hcs₂, -⟩ := exists_gap cs₂
    obtain ⟨q, hquoted, hname⟩ := literal_eq_some_iff.mp hliteral
    rw [hquoted] at hcs₂
    obtain ⟨gap₃, hgap₃, rfl⟩ := exists_gap_of_expect hclose
    obtain ⟨gap₄, hgap₄, rfl⟩ := exists_gap_of_expect hsign
    refine ⟨⟨gap₁, gap₂, q, name, gap₃, gap₄⟩, ⟨hgap₁, hgap₂, hname, hgap₃, hgap₄⟩, rfl, ?_⟩
    rw [Entry.text_append, expect_eq_some_iff.mp htests, hcs₂]
  · rintro ⟨e, he, rfl, rfl⟩
    have htests : ∀ cs, expect "tests".toList ("tests".toList ++ cs) = some cs :=
      fun _ => expect_eq_some_iff.mpr rfl
    rw [Entry.text_append, entryAt?, htests]
    simp only [Option.bind_eq_bind, Option.bind_some]
    rw [expect_gap he.beforeBracket (by decide), Option.bind_some,
      skipBlank_gap he.beforeName e.quote.isBlank_char,
      literal_eq_some_iff.mpr ⟨e.quote, rfl, he.name⟩, Option.bind_some,
      expect_gap he.afterName (by decide), Option.bind_some, expect_gap he.beforeSign (by decide)]
    rfl

/-- There is only one way to read an entry. -/
theorem Entry.Readable.right_eq {e e' : Entry} (h : e.Readable) (h' : e'.Readable)
    {right right' : List Char} (heq : e.text ++ right = e'.text ++ right') : right = right' := by
  have hread := entryAt?_eq_some_iff.mpr ⟨e, h, rfl, heq.symm⟩
  rw [entryAt?_eq_some_iff.mpr ⟨e', h', rfl, rfl⟩] at hread
  exact (congrArg Prod.snd (Option.some.inj hread)).symm

/-! ## Assignments in a script -/

/-- An assignment as it is written, up to the end of its expression. -/
structure Written where
  entry : Entry
  /-- The white space between the sign and the expression. -/
  gap : List Char
  right : List Char

namespace Written

def text (w : Written) : List Char := w.entry.text ++ (w.gap ++ w.right)

/-- The assignment as it is found. -/
def value (w : Written) : Assignment :=
  ⟨String.ofList w.entry.name, String.ofList (trim w.right)⟩

/-- What an assignment keeps to if some text stands behind it. -/
structure Readable (w : Written) (after : List Char) : Prop where
  entry : w.entry.Readable
  gap : ∀ c ∈ w.gap, isBlank c
  first : ∀ c ∈ (w.right ++ after).head?, isBlank c = false

end Written

theorem exists_written {previous : Option Char} {cs rest : List Char} {a : Assignment}
    (h : assignment previous cs = some (a, rest)) : ∃ w : Written, w.Readable rest ∧
      cs = w.text ++ rest ∧ a = w.value ∧ expression (w.right ++ rest) = (w.right, rest) := by
  rw [assignment_eq] at h
  obtain ⟨⟨name, behind⟩, hentry, heq⟩ := Option.map_eq_some_iff.mp h
  obtain ⟨e, he, rfl, rfl⟩ := entryAt?_eq_some_iff.mp hentry
  obtain ⟨gap, hgap, hbehind, hfirst⟩ := exists_gap behind
  obtain ⟨rfl, rfl⟩ := Prod.mk.inj heq
  refine ⟨⟨e, gap, (expression (skipBlank behind)).1⟩, ⟨he, hgap, ?_⟩, ?_, rfl, ?_⟩
  · rw [expression_append]
    exact hfirst
  · rw [Written.text, List.append_assoc, List.append_assoc, expression_append, ← hbehind]
  · rw [expression_append]

theorem Written.text_ne_nil (w : Written) : w.text ≠ [] :=
  List.append_ne_nil_of_left_ne_nil (List.append_ne_nil_of_left_ne_nil (List.cons_ne_nil _ _) _) _

theorem consumes_assignment : Consumes assignment := by
  intro previous cs a rest h
  obtain ⟨w, -, hcs, -⟩ := exists_written h
  exact ⟨w.text, w.text_ne_nil, hcs⟩

/-- What is found is an assignment as it is written. -/
theorem written_of_mem_occurrences {cs : List Char} {o : Occurrence Assignment}
    (ho : o ∈ occurrences assignment cs) : ∃ (w : Written) (after : List Char),
      w.Readable after ∧ cs = o.before ++ (o.source ++ after) ∧ o.source = w.text ∧
        o.value = w.value ∧ expression (w.right ++ after) = (w.right, after) := by
  obtain ⟨-, after, htext, hfound⟩ := recognized_of_mem_occurrences consumes_assignment ho
  obtain ⟨w, hw, hsource, hvalue, hright⟩ := exists_written hfound
  exact ⟨w, after, hw, htext, List.append_cancel_right hsource, hvalue, hright⟩

theorem exists_entry {cs : List Char} {o : Occurrence Assignment}
    (ho : o ∈ occurrences assignment cs) :
    ∃ (e : Entry) (right : List Char), e.Readable ∧ cs = o.before ++ (e.text ++ right) := by
  obtain ⟨w, after, hw, htext, hsource, -, -⟩ := written_of_mem_occurrences ho
  refine ⟨w.entry, w.gap ++ w.right ++ after, hw.entry, ?_⟩
  rw [htext, hsource, Written.text]
  simp only [List.append_assoc]

/-- Where an entry is written an assignment begins, unless an earlier one goes on. -/
theorem Entry.Readable.exists_covers {e : Entry} (h : e.Readable) {cs before right : List Char}
    (htext : cs = before ++ (e.text ++ right)) :
    ∃ o ∈ occurrences assignment cs, o.Covers before := by
  refine Text.exists_covers consumes_assignment htext ?_
  rw [assignment_eq, entryAt?_eq_some_iff.mpr ⟨e, h, rfl, rfl⟩]
  rfl

/-! ## Entries proper -/

/-- Whether an entry is one of the table of tests and is assigned to: `tests` is a name of its own,
and the sign is not the beginning of a sign that compares. -/
def Proper (before right : List Char) : Prop :=
  (∀ c ∈ before.getLast?, inName c = false ∧ c ≠ '.') ∧ right.head? ≠ some '='

/-- Whether all assignments that are found in a script are of entries proper. -/
def OnlyProper (script : String) : Prop :=
  ∀ o ∈ occurrences assignment script.toList, ∃ (e : Entry) (right : List Char),
    e.Readable ∧ script.toList = o.before ++ (e.text ++ right) ∧ Proper o.before right

/-- Only entries proper are taken just if all entries are proper that are not covered by an
assignment that begins before them. -/
theorem onlyProper_iff (script : String) :
    OnlyProper script ↔ ∀ (before : List Char) (e : Entry) (right : List Char), e.Readable →
      script.toList = before ++ (e.text ++ right) →
      (∀ o ∈ occurrences assignment script.toList, o.Covers before → o.before = before) →
      Proper before right := by
  constructor
  · intro hproper before e right he htext huncovered
    obtain ⟨o, ho, hcovers⟩ := he.exists_covers htext
    obtain ⟨e', right', he', htext', hproper'⟩ := hproper o ho
    rw [huncovered o ho hcovers] at htext' hproper'
    rw [htext', List.append_cancel_left_eq] at htext
    rwa [← he'.right_eq he htext]
  · intro hproper o ho
    obtain ⟨e, right, he, htext⟩ := exists_entry ho
    refine ⟨e, right, he, htext, hproper o.before e right he htext fun o' ho' hcovers => ?_⟩
    rw [eq_of_covers consumes_assignment ho' ho hcovers]

/-- A script that compares an entry and assigns nothing. -/
def comparing : String := "if (tests[\"a\"] === true && responseCode.code === 500)"

/-- The entry in it, which has a sign of comparison behind it. -/
def comparedEntry : Entry := ⟨[], [], .double, ['a'], [], [' ']⟩

/-- A script that assigns to an entry of another table. -/
def borrowing : String := "mytests[\"b\"] = responseCode.code === 404;"

theorem not_onlyProper_comparing :
    (¬ OnlyProper comparing ∧
      (RequestRecord.scripted comparing).request.checks.status = [500]) ∧
    ¬ OnlyProper borrowing ∧
      (RequestRecord.scripted borrowing).request.checks.status = [404] := by
  refine ⟨⟨fun hproper => ?_, by decide +kernel⟩, fun hproper => ?_, by decide +kernel⟩
  · have he : comparedEntry.Readable := ⟨by decide, by decide,
      .plain (by decide) (by decide) (fun _ => by decide) .nil, by decide, by decide⟩
    have htext : comparing.toList = "if (".toList ++
        (comparedEntry.text ++ "== true && responseCode.code === 500)".toList) := by
      decide
    obtain ⟨o, ho, -⟩ := he.exists_covers htext
    have hbefore : ∀ o ∈ occurrences assignment comparing.toList, o.before = "if (".toList := by
      decide +kernel
    obtain ⟨e, right, he', htext', -, hsign⟩ := hproper o ho
    rw [hbefore o ho] at htext'
    rw [← he.right_eq he' (List.append_cancel_left (htext.symm.trans htext'))] at hsign
    exact hsign rfl
  · have hmem : (⟨"my".toList, "tests[\"b\"] = responseCode.code === 404".toList,
        ⟨"b", "responseCode.code === 404"⟩⟩ : Occurrence Assignment) ∈
          occurrences assignment borrowing.toList := by
      decide +kernel
    obtain ⟨-, -, -, -, hname, -⟩ := hproper _ hmem
    exact absurd (hname 'y' rfl).1 (by decide)

end LoadScenario.Script
