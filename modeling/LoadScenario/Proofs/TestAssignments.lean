import LoadScenario.Proofs.QuotedText
import LoadScenario.Proofs.TextSearch
import LoadScenario.Proofs.WhiteSpace

/-!
# Scripts of test assignments

Many scripts are nothing but assignments into the table of tests, one on each line. What is
assigned differs, but all of them are found in the same way: the name is a literal and is taken
whole, however much it looks like an assignment itself, and the expression goes on to the semicolon
if it is whole and has no white space at its ends that would be trimmed off.
-/

namespace LoadScenario.Script

open Text

theorem skipBlank_quoted (cs rest : List Char) :
    skipBlank (Quote.double.quoted cs ++ rest) = Quote.double.quoted cs ++ rest :=
  skipBlank_cons (by decide) _

/-! ## One assignment -/

/-- An assignment of an expression to a name of a test. -/
def stored (name : String) (right : List Char) : List Char :=
  "tests".toList ++ '[' :: (Quote.double.quoted name.toList ++ ("] = ".toList ++ right))

theorem stored_ne_nil (name : String) (right : List Char) : stored name right ≠ [] :=
  fun hnil => absurd (List.append_eq_nil_iff.mp hnil).2 (List.cons_ne_nil _ _)

theorem stored_append (name : String) (right rest : List Char) : stored name right ++ rest =
    "tests".toList ++ '[' :: (Quote.double.quoted name.toList ++
      ']' :: ' ' :: '=' :: ' ' :: (right ++ rest)) := by
  show ("tests".toList ++ _) ++ rest = _
  simp only [String.reduceToList, List.append_assoc, List.cons_append, List.nil_append]

/-- The assignment as it is found. -/
def storedAssignment (name : String) (right : List Char) : Assignment :=
  ⟨String.ofList (name.toList.flatMap Quote.double.escape), String.ofList right⟩

theorem assignment_stored {name : String} {right : List Char} (hname : '\n' ∉ name.toList)
    (hwhole : Whole right) (hunpadded : Unpadded right) (previous : Option Char)
    (rest : List Char) : assignment previous (stored name right ++ ';' :: rest) =
      some (storedAssignment name right, ';' :: rest) := by
  have hexpression : expression (right ++ ';' :: rest) = (right, ';' :: rest) := by
    rw [hwhole, expression_end (.inl rfl), List.append_nil]
  have hright : skipBlank (' ' :: (right ++ ';' :: rest)) = right ++ ';' :: rest := by
    rw [skipBlank_blank (by decide)]
    refine hunpadded.skipBlank_append ?_
    rintro _ ⟨⟩
    decide
  rw [stored_append, assignment, expect_eq_some_iff.mpr rfl]
  simp only [Option.bind_eq_bind, Option.bind_some]
  rw [expect_blank (by decide), Option.bind_some, skipBlank_quoted,
    literal_quoted Quote.oneLine .double (fun _ => hname), Option.bind_some,
    expect_blank (by decide), Option.bind_some, skipBlank_blank (by decide),
    expect_blank (by decide), Option.bind_some, hright, hexpression]
  simp only
  rw [hunpadded.trim_eq]
  rfl

/-! ## One assignment on each line -/

/-- Assignments on lines of their own, and no more than line ends behind them, are found as they
are. -/
theorem findAll_assignment {β : Type} (name : β → String) (right : β → List Char) {bs : List β}
    (h : ∀ b ∈ bs, '\n' ∉ (name b).toList ∧ Whole (right b) ∧ Unpadded (right b))
    {ending : List Char} (hending : ∀ c ∈ ending, c = '\n') :
    findAll assignment
        (['\n'].intercalate (bs.map fun b => stored (name b) (right b) ++ [';']) ++ ending) =
      bs.map fun b => storedAssignment (name b) (right b) := by
  have hpassed : ∀ cs : List Char, (∀ c ∈ cs, c = '\n' ∨ c = ';') →
      ∀ c ∈ cs, ∀ previous rest, assignment previous (c :: rest) = none := by
    intro cs hcs c hc
    refine assignment_of_ne ?_
    rintro rfl
    exact absurd (hcs 't' hc) (by decide)
  have hsemicolon := hpassed [';'] (by decide)
  have hrest : ∀ previous, valuesFrom assignment previous ending = [] := by
    intro previous
    have hnone := valuesFrom_passed (hpassed ending fun c hc => .inl (hending c hc)) previous []
    rw [List.append_nil] at hnone
    rw [hnone]
    rfl
  refine (valuesFrom_intercalate_append (fun _ => True)
    (fun b => [storedAssignment (name b) (right b)]) (hpassed ['\n'] (by decide))
    (fun _ => trivial) hrest ?_ trivial).trans List.map_eq_flatMap.symm
  intro b hb previous _ behind _
  obtain ⟨hname, hwhole, hunpadded⟩ := h b hb
  rw [List.append_assoc, List.singleton_append, valuesFrom_found (stored_ne_nil _ _)
    (assignment_stored hname hwhole hunpadded previous behind)]
  exact ⟨_, congrArg _ (valuesFrom_passed hsemicolon _ behind)⟩

end LoadScenario.Script
