import LoadScenario.Command.Listing
import LoadScenario.Proofs.LexicalBlocks
import LoadScenario.Proofs.LiteralEnds
import LoadScenario.Proofs.WhiteSpace

/-!
# How many checks a request has

Checks are counted in three ways: as a number, by what a scenario makes of them, and by whether
there are none. All right status codes together count as one, and the scenario has one expression
for them, whether it is one code or several.

That the numbers agree is shown on the texts. The block of a request is read line by line, where a
line does not end in a literal, and its group of checks is found between a line that opens it and
one that closes it. The listing says how many checks there are, and that is how many expressions
are read in the block.
-/

namespace LoadScenario

/-! ## Counting -/

theorem Scenario.length_statusChecks (codes : List Nat) :
    (statusChecks codes).length = if codes.isEmpty then 0 else 1 := by
  match codes with
  | [] | [_] | _ :: _ :: _ => rfl

theorem Scenario.length_checkCalls (c : Checks) : (checkCalls c).length = c.count := by
  simp only [checkCalls, Checks.count, List.length_append, List.length_map, length_statusChecks]

theorem Checks.isEmpty_iff_count (c : Checks) : c.isEmpty = true ↔ c.count = 0 := by
  simp only [isEmpty, count, Bool.and_eq_true, List.isEmpty_iff, Nat.add_eq_zero_iff,
    List.length_eq_zero_iff]
  refine and_congr_left' (and_congr_left' (and_congr_left' ?_))
  by_cases h : c.status = []
  · simp [h]
  · simp [h]

namespace Scenario

open Text

/-! ## Lines of source -/

/-- Recognises a string literal. -/
def quotation : Recognizer (List Char) := fun _ cs =>
  match cs with
  | '"' :: cs => quotedText? cs
  | _ => none

/-- Lines with a text in front of the first. -/
def onto (cs : List Char) : List (List Char) → List (List Char)
  | [] => [cs]
  | line :: ls => (cs ++ line) :: ls

/-- The lines that pieces of source make. -/
def linesOf : List (Piece (List Char)) → List (List Char)
  | [] => [[]]
  | .plain '\n' :: ps => [] :: linesOf ps
  | p :: ps => onto p.source (linesOf ps)

/-- The lines of source. No line ends in a literal. -/
def sourceLines (cs : List Char) : List (List Char) := linesOf (pieces quotation cs)

theorem onto_append (cs cs' : List Char) (ls : List (List Char)) :
    onto (cs ++ cs') ls = onto cs (onto cs' ls) := by
  cases ls with
  | nil => rfl
  | cons line ls => exact congrArg (· :: ls) (List.append_assoc cs cs' line)

theorem linesOf_ne_nil (ps : List (Piece (List Char))) : linesOf ps ≠ [] := by
  fun_cases linesOf ps with
  | case1 => exact List.cons_ne_nil _ _
  | case2 => exact List.cons_ne_nil _ _
  | case3 p ps => cases linesOf ps <;> exact List.cons_ne_nil _ _

theorem onto_nil {ls : List (List Char)} (h : ls ≠ []) : onto [] ls = ls := by
  cases ls with
  | nil => exact absurd rfl h
  | cons line ls => rfl

theorem quotation_eq_none {c : Char} (hc : c ≠ '"') (previous : Option Char) (cs : List Char) :
    quotation previous (c :: cs) = none := by
  unfold quotation
  split
  next h => exact absurd (List.head_eq_of_cons_eq h) hc
  next => rfl

/-- What is in front of a place makes no difference to the search for literals. -/
theorem piecesFrom_quotation (previous : Option Char) (cs : List Char) :
    piecesFrom quotation 0 previous cs = pieces quotation cs := by
  cases cs with
  | nil => rfl
  | cons c cs =>
      have hblind : quotation previous (c :: cs) = quotation none (c :: cs) := rfl
      rw [pieces, piecesFrom, piecesFrom, hblind]

theorem sourceLines_newline (cs : List Char) : sourceLines ('\n' :: cs) = [] :: sourceLines cs := by
  rw [sourceLines, pieces, piecesFrom_plain (quotation_eq_none (by decide) _ _),
    piecesFrom_quotation]
  rfl

theorem sourceLines_plain {c : Char} (hquote : c ≠ '"') (hline : c ≠ '\n') (cs : List Char) :
    sourceLines (c :: cs) = onto [c] (sourceLines cs) := by
  rw [sourceLines, pieces, piecesFrom_plain (quotation_eq_none hquote _ _), piecesFrom_quotation,
    linesOf]
  · rfl
  · exact fun h => hline (Piece.plain.inj h)

theorem sourceLines_literal (s : String) (cs : List Char) :
    sourceLines ((literal s).toList ++ cs) = onto (literal s).toList (sourceLines cs) := by
  have hliteral : quotation none ((literal s).toList ++ cs) = some (s.toList, cs) := by
    rw [literal_toList, List.append_assoc, List.append_assoc]
    exact quotedText?_escaped s.toList cs
  have hne : (literal s).toList ≠ [] := by
    rw [literal_toList]
    exact List.cons_ne_nil _ _
  rw [sourceLines, pieces, piecesFrom_found hne hliteral, piecesFrom_quotation]
  rfl

/-- What is put together from literals and plain text stands on one line. -/
theorem Quoting.sourceLines_append {cs : List Char} {ss : List String} (h : Quoting cs ss)
    (rest : List Char) : sourceLines (cs ++ rest) = onto cs (sourceLines rest) := by
  induction h generalizing rest with
  | @plain cs hquote hline =>
      induction cs with
      | nil => exact (onto_nil (linesOf_ne_nil _)).symm
      | cons c cs ih =>
          rw [List.mem_cons, not_or] at hquote hline
          rw [List.cons_append, sourceLines_plain (Ne.symm hquote.1) (Ne.symm hline.1),
            ih hquote.2 hline.2, ← onto_append]
          rfl
  | literal s => exact sourceLines_literal s rest
  | append _ _ ih ih' => rw [List.append_assoc, ih, ih', onto_append]

theorem sourceLines_ended {ls : List String} (h : ∀ line ∈ ls, ∃ ss, Quoting line.toList ss)
    (rest : List Char) :
    sourceLines (ended ls ++ rest) = ls.map String.toList ++ sourceLines rest := by
  induction ls with
  | nil => rfl
  | cons line ls ih =>
      rw [List.forall_mem_cons] at h
      obtain ⟨⟨ss, hline⟩, hrest⟩ := h
      have hended : ended (line :: ls) ++ rest = line.toList ++ '\n' :: (ended ls ++ rest) := by
        rw [ended, List.flatMap_cons, List.append_assoc, List.append_assoc]
        rfl
      rw [hended, hline.sourceLines_append, sourceLines_newline, ih hrest]
      exact congrArg (· :: _) (List.append_nil _)

/-! ## The lines of a clause -/

/-- Lines with commas between them, at the line ends. -/
def withCommas : List String → List String
  | [] => []
  | [line] => [line]
  | line :: ls => (line ++ ",") :: withCommas ls

theorem ended_withCommas (line : String) (ls : List String) :
    ended [",\n".intercalate (line :: ls)] = ended (withCommas (line :: ls)) := by
  induction ls generalizing line with
  | nil => rw [String.intercalate_singleton, withCommas]
  | cons line' ls ih =>
      have hrest := ih line'
      rw [withCommas, String.intercalate_cons_cons]
      · simp only [ended, List.flatMap_cons, List.flatMap_nil, List.append_nil,
          String.toList_append, String.reduceToList, List.append_assoc, List.cons_append,
          List.nil_append] at hrest ⊢
        rw [hrest]
      · exact List.cons_ne_nil line' ls

theorem eq_of_mem_withCommas {line : String} {ls : List String} (h : line ∈ withCommas ls) :
    ∃ line' ∈ ls, line = line' ∨ line = line' ++ "," := by
  fun_induction withCommas ls with
  | case1 => cases h
  | case2 line' => exact ⟨line', List.mem_cons_self, .inl (List.mem_singleton.mp h)⟩
  | case3 line' ls _ ih =>
      rcases List.mem_cons.mp h with rfl | h
      · exact ⟨line', List.mem_cons_self, .inr rfl⟩
      · obtain ⟨line'', hline, heq⟩ := ih h
        exact ⟨line'', List.mem_cons_of_mem _ hline, heq⟩

theorem quoting_indent (depth : Nat) : Quoting (indent depth).toList [] :=
  .plain (not_mem_indent (by decide) depth) (not_mem_indent (by decide) depth)

theorem quoting_call_two {method : String} (hquote : '"' ∉ method.toList)
    (hline : '\n' ∉ method.toList) (depth : Nat) (s t : String) :
    Quoting (indent depth ++ call method [literal s, literal t]).toList [s, t] := by
  rw [String.toList_append, call_two_toList]
  exact (quoting_indent depth).append (.append (.plain (by decide) (by decide))
    (.append (.plain hquote hline) (.append (.plain (by decide) (by decide))
      (.append (.literal s) (.append (.plain (by decide) (by decide))
        (.append (.literal t) (.plain (by decide) (by decide))))))))

namespace Clause

/-- The lines of a clause, with a line for each expression. -/
def sourceLines (simulation : String) (depth : Nat) : Clause → List String
  | checks first others =>
    [indent (depth + 1) ++ ".check("] ++
      withCommas ((first :: others).map (indent (depth + 2) ++ ·.text)) ++
      [indent (depth + 1) ++ ")"]
  | c => c.lines simulation depth

theorem ended_sourceLines (simulation : String) (depth : Nat) (c : Clause) :
    ended (c.sourceLines simulation depth) = c.text simulation depth := by
  rw [← ended_lines]
  cases c with
  | auth | header | body => rfl
  | checks first others =>
      rw [sourceLines, ended_append, ended_append, List.map_cons, ← ended_withCommas,
        ← ended_append, ← ended_append]
      rfl

theorem quoting_sourceLines (simulation : String) (depth : Nat) (c : Clause) :
    ∀ line ∈ c.sourceLines simulation depth, ∃ ss, Quoting line.toList ss := by
  have hbuilder : ∀ scheme : AuthScheme,
      '"' ∉ scheme.builder.toList ∧ '\n' ∉ scheme.builder.toList := by
    intro scheme
    cases scheme <;> decide
  intro line hline
  cases c with
  | auth a =>
      rw [List.mem_singleton.mp hline]
      obtain ⟨hquote, hend⟩ := hbuilder a.scheme
      exact ⟨_, quoting_call_two hquote hend _ a.user a.password⟩
  | header key value =>
      rw [List.mem_singleton.mp hline]
      exact ⟨_, quoting_call_two (by decide) (by decide) _ key value⟩
  | body filename =>
      rw [List.mem_singleton.mp hline, String.toList_append, call_one_toList]
      simp only [String.toList_append]
      exact ⟨_, (quoting_indent _).append (.append (.plain (by decide) (by decide))
        (.append (.plain (by decide) (by decide)) (.append (.plain (by decide) (by decide))
          (.append (.append (.append (.plain (by decide) (by decide)) (.literal _))
            (.plain (by decide) (by decide))) (.plain (by decide) (by decide))))))⟩
  | checks first others =>
      have hplain : ∀ s : String, '"' ∉ s.toList → '\n' ∉ s.toList →
          ∃ ss, Quoting (indent (depth + 1) ++ s).toList ss := by
        intro s hquote hline
        rw [String.toList_append]
        exact ⟨_, (quoting_indent _).append (.plain hquote hline)⟩
      rw [sourceLines, List.mem_append, List.mem_append, List.mem_singleton,
        List.mem_singleton] at hline
      rcases hline with (rfl | hexpression) | rfl
      · exact hplain _ (by decide) (by decide)
      · obtain ⟨line', hline', heq⟩ := eq_of_mem_withCommas hexpression
        obtain ⟨e, -, rfl⟩ := List.mem_map.mp hline'
        have hquoting : Quoting (indent (depth + 2) ++ e.text).toList ([] ++ e.quotedTexts) := by
          rw [String.toList_append]
          exact (quoting_indent _).append e.quoting
        rcases heq with rfl | rfl
        · exact ⟨_, hquoting⟩
        · rw [String.toList_append]
          exact ⟨_, hquoting.append (.plain (by decide) (by decide))⟩
      · exact hplain _ (by decide) (by decide)

end Clause

theorem sourceLines_behindMethod (simulation : String) (depth : Nat) (r : Request) :
    sourceLines (behindMethod simulation depth r) =
      ((clauses r).flatMap (Clause.sourceLines simulation depth) ++
        [indent depth ++ ")"]).map String.toList ++ [[]] := by
  have hended : behindMethod simulation depth r =
      ended ((clauses r).flatMap (Clause.sourceLines simulation depth) ++ [indent depth ++ ")"]) ++
        [] := by
    rw [behindMethod, List.append_nil, ended_append, ended, List.flatMap_assoc]
    refine congrArg₂ (· ++ ·) (congrArg ((clauses r).flatMap ·) (funext fun c => ?_)) ?_
    · exact (c.ended_sourceLines simulation depth).symm
    · rw [ended, List.flatMap_singleton, String.toList_append, List.append_assoc]
      simp only [String.reduceToList, List.cons_append, List.nil_append]
  rw [hended, sourceLines_ended]
  · rfl
  · intro line hline
    rcases List.mem_append.mp hline with hclause | hclose
    · obtain ⟨c, -, hline⟩ := List.mem_flatMap.mp hclause
      exact c.quoting_sourceLines simulation depth line hline
    · rw [List.mem_singleton.mp hclose, String.toList_append]
      exact ⟨_, (quoting_indent depth).append (.plain (by decide) (by decide))⟩

/-! ## Finding the group of checks -/

/-- The expression on a line of a group: what stands between the white space in front of it and the
comma behind it. -/
def expressionOn (line : List Char) : List Char :=
  let cs := skipBlank line
  if cs.getLast? = some ',' then cs.dropLast else cs

/-- The expressions of the first group of checks on some lines, if there is one. -/
def checkGroup? (ls : List (List Char)) : Option (List (List Char)) :=
  match ls.dropWhile fun line => skipBlank line ≠ ".check(".toList with
  | [] => none
  | _ :: inner => some ((inner.takeWhile fun line => skipBlank line ≠ [')']).map expressionOn)

theorem skipBlank_indent {c : Char} (hc : isBlank c = false) (depth : Nat) (cs : List Char) :
    skipBlank ((indent depth).toList ++ c :: cs) = c :: cs := by
  refine skipBlank_gap (fun d hd => ?_) hc cs
  rw [indent, String.toList_ofList] at hd
  rw [List.eq_of_mem_replicate hd]
  decide

theorem skipBlank_call (method : String) (depth : Nat) (arguments : List String) :
    skipBlank (indent depth ++ call method arguments).toList =
      (call method arguments).toList := by
  rw [String.toList_append, call]
  simp only [String.toList_append, List.append_assoc]
  exact skipBlank_indent (by decide) depth _

theorem Clause.not_opening {c : Clause} (hc : c.kind ≠ .check) (simulation : String) (depth : Nat) :
    ∀ line ∈ c.sourceLines simulation depth, skipBlank line.toList ≠ ".check(".toList := by
  have hword : ∀ (method : String) (arguments : List String),
      method.toList.head? ∈ [some 'b', some 'd', some 'h'] →
        skipBlank (indent (depth + 1) ++ call method arguments).toList ≠ ".check(".toList := by
    intro method arguments hfirst heq
    rw [skipBlank_call, call] at heq
    simp only [String.toList_append, List.append_assoc] at heq
    cases hmethod : method.toList with
    | nil =>
        rw [hmethod] at hfirst
        exact absurd hfirst (by decide)
    | cons d ds =>
        rw [hmethod] at hfirst heq
        obtain rfl : d = 'c' := List.head_eq_of_cons_eq (List.tail_eq_of_cons_eq heq)
        rw [List.head?_cons] at hfirst
        exact absurd hfirst (by decide)
  have hbuilder : ∀ scheme : AuthScheme,
      scheme.builder.toList.head? ∈ [some 'b', some 'd', some 'h'] := by
    intro scheme
    cases scheme <;> decide
  intro line hline
  cases c with
  | auth a =>
      rw [List.mem_singleton.mp hline]
      exact hword _ _ (hbuilder a.scheme)
  | header key value =>
      rw [List.mem_singleton.mp hline]
      exact hword _ _ (by decide)
  | body filename =>
      rw [List.mem_singleton.mp hline]
      exact hword _ _ (by decide)
  | checks first others => exact absurd rfl hc

/-- How an expression begins and how it ends. -/
theorem Expression.text_ends (e : Expression) :
    (∃ c cs, e.text.toList = c :: cs ∧ isBlank c = false ∧ c ≠ ')') ∧
      e.text.toList.getLast? ≠ some ',' := by
  constructor
  · have hkeyword : ∃ c cs, e.keyword.text.toList = c :: cs ∧ isBlank c = false ∧ c ≠ ')' := by
      cases e.keyword <;> exact ⟨_, _, rfl, by decide, by decide⟩
    obtain ⟨c, cs, hfirst, hblank, hclose⟩ := hkeyword
    exact ⟨c, cs ++ e.rest.toList, by rw [text_toList, hfirst]; rfl, hblank, hclose⟩
  · have hrest : ∃ cs c, e.rest.toList = cs ++ [c] ∧ c ≠ ',' := by
      cases e with
      | statusIs | statusIn | statusNot => exact ⟨_, ')', String.toList_append, by decide⟩
      | matching pattern =>
          refine ⟨(literal pattern).toList ++ ").exist".toList, 's', ?_, by decide⟩
          rw [rest, String.toList_append, List.append_assoc]
          rfl
      | keeping | keepingAt =>
          simp only [rest, ← String.append_assoc]
          exact ⟨_, ')', String.toList_append, by decide⟩
    obtain ⟨cs, c, hend, hc⟩ := hrest
    rw [text_toList, hend, ← List.append_assoc, List.getLast?_concat]
    exact fun h => hc (Option.some.inj h)

/-- On its line an expression is found again, and the line does not close the group. -/
theorem Expression.expressionOn_line (e : Expression) (depth : Nat) {line : String}
    (hline : line = indent depth ++ e.text ∨ line = indent depth ++ e.text ++ ",") :
    expressionOn line.toList = e.text.toList ∧ skipBlank line.toList ≠ [')'] := by
  obtain ⟨⟨c, cs, hfirst, hblank, hclose⟩, hlast⟩ := e.text_ends
  have hskip : ∀ s : String, skipBlank (indent depth ++ e.text ++ s).toList =
      e.text.toList ++ s.toList := by
    intro s
    rw [String.toList_append, String.toList_append, List.append_assoc, hfirst, List.cons_append,
      skipBlank_indent hblank]
  have hopen : ∀ s : String, skipBlank (indent depth ++ e.text ++ s).toList ≠ [')'] := by
    intro s heq
    rw [hskip, hfirst] at heq
    exact hclose (List.head_eq_of_cons_eq heq)
  rcases hline with rfl | rfl
  · have hplain : skipBlank (indent depth ++ e.text).toList = e.text.toList := by
      have hempty := hskip ""
      rwa [String.append_empty, String.toList_empty, List.append_nil] at hempty
    refine ⟨?_, by rw [← String.append_empty (s := indent depth ++ e.text)]; exact hopen ""⟩
    rw [expressionOn, hplain, if_neg hlast]
  · refine ⟨?_, hopen ","⟩
    rw [expressionOn, hskip]
    exact (if_pos List.getLast?_concat).trans List.dropLast_concat

theorem expressions_withCommas (depth : Nat) (es : List Expression) :
    (withCommas (es.map (indent depth ++ ·.text))).map (fun line => expressionOn line.toList) =
      es.map (·.text.toList) := by
  induction es with
  | nil => rfl
  | cons e es ih =>
      cases es with
      | nil => exact congrArg (fun cs => [cs]) (e.expressionOn_line depth (.inl rfl)).1
      | cons e' es =>
          rw [List.map_cons, List.map_cons, withCommas, List.map_cons]
          · exact congrArg₂ (· :: ·) (e.expressionOn_line depth (.inr rfl)).1 ih
          · exact nofun

theorem checkGroup?_group (opening closing : String) (depth : Nat) (es : List Expression)
    (behind : List (List Char)) (hopening : skipBlank opening.toList = ".check(".toList)
    (hclosing : skipBlank closing.toList = [')']) :
    checkGroup? (([opening] ++ withCommas (es.map (indent depth ++ ·.text)) ++
      [closing]).map String.toList ++ behind) = some (es.map (·.text.toList)) := by
  have hinside : ∀ cs ∈ (withCommas (es.map (indent depth ++ ·.text))).map String.toList,
      decide (skipBlank cs ≠ [')']) = true := by
    intro cs hcs
    obtain ⟨line, hline, rfl⟩ := List.mem_map.mp hcs
    obtain ⟨line', hline', heq⟩ := eq_of_mem_withCommas hline
    obtain ⟨e, -, rfl⟩ := List.mem_map.mp hline'
    exact decide_eq_true (e.expressionOn_line depth heq).2
  rw [checkGroup?, List.map_append, List.map_append, List.append_assoc, List.append_assoc]
  simp only [List.map_cons, List.map_nil, List.cons_append, List.nil_append]
  rw [List.dropWhile_cons_of_neg (by simp [hopening])]
  simp only
  rw [List.takeWhile_append_of_pos hinside, List.takeWhile_cons_of_neg (by simp [hclosing]),
    List.append_nil, List.map_map]
  exact congrArg some (expressions_withCommas depth es)

theorem checkGroup?_append {ls : List (List Char)}
    (h : ∀ line ∈ ls, skipBlank line ≠ ".check(".toList) (ls' : List (List Char)) :
    checkGroup? (ls ++ ls') = checkGroup? ls' := by
  rw [checkGroup?, List.dropWhile_append_of_pos fun line hline => decide_eq_true (h line hline),
    checkGroup?]

theorem clauses_eq_append (r : Request) : ∃ front : List Clause, (∀ c ∈ front, c.kind ≠ .check) ∧
    clauses r = front ++ Clause.ofExpressions (Expression.ofChecks r.checks) := by
  refine ⟨_, ?_, rfl⟩
  simp only [List.forall_mem_append, List.forall_mem_map]
  refine ⟨⟨fun a _ => ?_, fun _ _ => nofun⟩, fun _ _ => nofun⟩
  obtain ⟨scheme, user, password⟩ := a
  cases scheme <;> exact nofun

theorem isEmpty_ofChecks (c : Checks) : (Expression.ofChecks c).isEmpty = c.isEmpty := by
  rw [Bool.eq_iff_iff, c.isEmpty_iff_count, ← length_checkCalls, checkCalls_eq, List.length_map,
    List.length_eq_zero_iff, List.isEmpty_iff]

/-- Behind the line of its method a block has a group with the expressions of all checks, if there
are any. -/
theorem checkGroup?_behindMethod (simulation : String) (depth : Nat) (r : Request) :
    checkGroup? (sourceLines (behindMethod simulation depth r)) =
      if r.checks.isEmpty then none else some ((checkCalls r.checks).map String.toList) := by
  obtain ⟨front, hfront, hclauses⟩ := clauses_eq_append r
  have hpassed : ∀ line ∈ (front.flatMap (Clause.sourceLines simulation depth)).map String.toList,
      skipBlank line ≠ ".check(".toList := by
    intro line hline
    obtain ⟨s, hs, rfl⟩ := List.mem_map.mp hline
    obtain ⟨c, hc, hs⟩ := List.mem_flatMap.mp hs
    exact Clause.not_opening (hfront c hc) simulation depth s hs
  have hclose : ∀ n, skipBlank (indent n ++ ")").toList = [')'] := by
    intro n
    rw [String.toList_append]
    exact skipBlank_indent (by decide) n []
  rw [sourceLines_behindMethod, hclauses, List.flatMap_append, List.append_assoc, List.map_append,
    List.append_assoc, checkGroup?_append hpassed, checkCalls_eq, ← isEmpty_ofChecks]
  cases Expression.ofChecks r.checks with
  | nil =>
      -- The parenthesis that closes the block opens no group.
      have hnone : checkGroup? ([(indent depth ++ ")").toList, []] ++ []) = none := by
        refine checkGroup?_append (fun line hline => ?_) []
        rcases List.mem_cons.mp hline with rfl | hline
        · rw [hclose]
          decide
        · rw [List.mem_singleton.mp hline]
          decide
      exact hnone
  | cons first others =>
      have hopen : skipBlank (indent (depth + 1) ++ ".check(").toList = ".check(".toList := by
        rw [String.toList_append]
        exact skipBlank_indent (by decide) _ _
      rw [Clause.ofExpressions, List.flatMap_singleton, Clause.sourceLines, List.map_append,
        List.append_assoc, checkGroup?_group _ _ (depth + 2) (first :: others) _ hopen (hclose _),
        List.map_map]
      rfl

end Scenario

/-! ## The number in a listing -/

namespace Listing

/-- What stands in front of the number of checks. -/
def countMark : String := "     Checks: "

/-- Whether a line says how many checks there are. -/
def isCount (line : String) : Bool := countMark.toList.isPrefixOf line.toList

theorem isCount_append {s : String} (hmark : ¬ countMark.toList <+: s.toList)
    (hfront : ¬ s.toList <+: countMark.toList) (rest : String) :
    ¬ isCount (s ++ rest) = true := by
  rw [isCount, List.isPrefixOf_iff_prefix, String.toList_append]
  intro h
  exact (List.prefix_or_prefix_of_prefix h (List.prefix_append _ _)).elim hmark hfront

/-- No line in front of the checks of a request counts them. -/
theorem filter_isCount_eq_nil {α : Type} {l : List α} {line : α → String} {s : String}
    (hline : ∀ a, ∃ rest, line a = s ++ rest) (hmark : ¬ countMark.toList <+: s.toList)
    (hfront : ¬ s.toList <+: countMark.toList) : (l.map line).filter isCount = [] := by
  refine List.filter_eq_nil_iff.mpr fun _ hmem => ?_
  obtain ⟨a, -, rfl⟩ := List.mem_map.mp hmem
  obtain ⟨rest, hrest⟩ := hline a
  rw [hrest]
  exact isCount_append hmark hfront rest

/-- The number of checks is on a line of its own, and there is no such line if there are none. -/
theorem filter_isCount_checkLines (color : Bool) (c : Checks) :
    (checkLines color c).filter isCount =
      if c.isEmpty then [] else [countMark ++ toString c.count] := by
  have hcount : isCount (countMark ++ toString c.count) = true := by
    rw [isCount, List.isPrefixOf_iff_prefix, String.toList_append]
    exact List.prefix_append _ _
  have hstatus : (if c.status.isEmpty then []
      else ["       status in " ++ Scenario.commaList (c.status.map toString)]).filter isCount =
        [] := by
    split
    · rfl
    · exact List.filter_cons_of_neg (isCount_append (by decide) (by decide) _)
  rw [checkLines]
  split
  · rfl
  · rw [List.filter_append, List.filter_append, List.filter_append, List.filter_append, hstatus,
      filter_isCount_eq_nil (s := "       status not ") (fun _ => ⟨_, rfl⟩) (by decide)
        (by decide),
      filter_isCount_eq_nil (s := "       body matches ") (fun _ => ⟨_, rfl⟩) (by decide)
        (by decide),
      filter_isCount_eq_nil (s := "       save ")
        (fun _ => ⟨_, by simp only [String.append_assoc]; rfl⟩) (by decide) (by decide)]
    simp only [List.append_nil]
    exact List.filter_cons_of_pos hcount

theorem filter_isCount_requestLines (color : Bool) (place : Nat) (r : Request) :
    (requestLines color place r).filter isCount =
      if r.checks.isEmpty then [] else [countMark ++ toString r.checks.count] := by
  have hplace : ¬ isCount ("  " ++ toString place ++ ". " ++
      paint color .brightCyan (Text.uppercase r.method) ++ " " ++ paint color .bold r.name) := by
    rw [isCount, List.isPrefixOf_iff_prefix]
    rintro ⟨rest, hrest⟩
    simp only [String.toList_append, List.append_assoc] at hrest
    exact cons_ne_number_append (by decide) _ _ _
      (List.tail_eq_of_cons_eq (List.tail_eq_of_cons_eq hrest))
  have hheaders : (if r.headers.isEmpty then []
      else ["     Headers: " ++ toString r.headers.size]).filter isCount = [] := by
    split
    · rfl
    · exact List.filter_cons_of_neg (isCount_append (by decide) (by decide) _)
  rw [requestLines, List.filter_append, List.filter_append, List.filter_append,
    List.filter_append, hheaders, filter_isCount_checkLines,
    filter_isCount_eq_nil (s := "     Auth: ")
      (fun _ => ⟨_, by simp only [String.append_assoc]; rfl⟩) (by decide) (by decide),
    filter_isCount_eq_nil (s := "     Body: ") (fun _ => ⟨_, rfl⟩) (by decide) (by decide),
    List.filter_cons_of_neg (by decide), List.filter_cons_of_neg hplace,
    List.filter_cons_of_neg (isCount_append (by decide) (by decide) r.url)]
  rfl

end Listing

/-- The number of checks is the number of expressions that the scenario has for them, and it is zero
just if there is nothing to check. Then the block of the request has no group of checks, and
otherwise the group is there, the expressions on its lines are those of the checks, and their number
is the one that a listing shows. -/
theorem checks_counted_alike (simulation : String) (depth : Nat) (r : Request) :
    (Scenario.checkCalls r.checks).length = r.checks.count ∧
      (r.checks.isEmpty = true ↔ r.checks.count = 0) ∧
      ∃ behind, (Scenario.block simulation depth r).toList = Scenario.nameLine depth r.name ++
          '\n' :: (Scenario.methodLine depth r.method r.url ++ '\n' :: behind) ∧
        let group? := Scenario.checkGroup? (Scenario.sourceLines behind)
        group? = (if r.checks.isEmpty then none
          else some ((Scenario.checkCalls r.checks).map String.toList)) ∧
        ∀ color place, (Listing.requestLines color place r).filter Listing.isCount =
          group?.toList.map fun group => Listing.countMark ++ toString group.length := by
  refine ⟨Scenario.length_checkCalls r.checks, r.checks.isEmpty_iff_count, _,
    Scenario.block_lines simulation depth r, ?_⟩
  simp only [Scenario.checkGroup?_behindMethod, Listing.filter_isCount_requestLines, true_and]
  intro _ _
  split
  · rfl
  · rw [Option.toList_some, List.map_singleton, List.length_map, Scenario.length_checkCalls]

end LoadScenario
