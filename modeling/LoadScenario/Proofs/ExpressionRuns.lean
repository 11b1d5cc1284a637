import LoadScenario.Proofs.AssignedEntries

/-!
# How far an expression runs

The right-hand side of an assignment is a run of literals and of characters between them, and it
should be the longest one there is. Here a literal is what a script means by one: a backslash takes
the next character with it, and between backquotes that may be the end of a line as well as any
other. The reader of literals never takes an end of a line behind a backslash. So it reads the
longest run unless it comes to a literal between backquotes with a backslash at the end of a line,
in front of which it stops as if the literal were never closed (`longestRun_iff`).

What is read is a run in any case, and that it is not cut anywhere is said once more without runs,
by an automaton that goes over a script and knows no more than the quote it is in.
-/

namespace LoadScenario.Script

open Text

theorem Quote.char_injective {q q' : Quote} (h : q.char = q'.char) : q = q' := by
  have hsome := q.ofChar?_char
  rw [h, q'.ofChar?_char] at hsome
  exact (Option.some.inj hsome).symm

theorem Quote.ofChar?_eq_none_iff {c : Char} :
    Quote.ofChar? c = none ↔ ∀ q : Quote, c ≠ q.char := by
  rw [Option.eq_none_iff_forall_ne_some]
  exact forall_congr' fun q => not_congr Quote.ofChar?_eq_some_iff

/-! ## Runs -/

/-- What stands between two quotes. -/
inductive Enclosed (q : Quote) : List Char → Prop
  | nil : Enclosed q []
  | plain {c : Char} {cs : List Char} : c ≠ q.char → c ≠ '\\' → (q.oneLine → c ≠ '\n') →
      Enclosed q cs → Enclosed q (c :: cs)
  | pair {d : Char} {cs : List Char} : (q.oneLine → d ≠ '\n') →
      Enclosed q cs → Enclosed q ('\\' :: d :: cs)

/-- A text of whole literals and of characters that neither end an expression nor are quotes. -/
inductive Run : List Char → Prop
  | nil : Run []
  | plain {c : Char} {cs : List Char} : c ≠ ';' → c ≠ '\n' → (∀ q : Quote, c ≠ q.char) →
      Run cs → Run (c :: cs)
  | literal {q : Quote} {body cs : List Char} : Enclosed q body →
      Run cs → Run (q.char :: (body ++ q.char :: cs))

/-- The longest run at the front of a text. -/
structure LongestRun (run text : List Char) : Prop where
  isRun : Run run
  starts : run <+: text
  longest : ∀ other, Run other → other <+: text → other.length ≤ run.length

section

variable {q : Quote} {body body' cs cs' : List Char}

theorem LiteralText.enclosed (h : LiteralText q q.oneLine body) : Enclosed q body := by
  induction h with
  | nil => exact .nil
  | plain hquote hslash hline _ ih => exact .plain hquote hslash hline ih
  | pair hd _ ih => exact .pair (fun _ => hd) ih

/-- The reader takes what is enclosed, unless a backslash stands at the end of a line. -/
theorem Enclosed.literalText (h : Enclosed q body)
    (hcontinued : q = .back → ¬ ['\\', '\n'] <:+: body) : LiteralText q q.oneLine body := by
  induction h with
  | nil => exact .nil
  | plain hquote hslash hline _ ih =>
      exact .plain hquote hslash hline
        (ih fun hq hbody => hcontinued hq (hbody.trans (List.suffix_cons _ _).isInfix))
  | pair hd _ ih =>
      refine .pair ?_ (ih fun hq hbody =>
        hcontinued hq (hbody.trans ((List.suffix_cons _ _).trans (List.suffix_cons _ _)).isInfix))
      rintro rfl
      cases q with
      | double | single => exact hd rfl rfl
      | back => exact hcontinued rfl (List.prefix_append ['\\', '\n'] _).isInfix

/-- A literal ends at one place. -/
theorem Enclosed.append_inj (h : Enclosed q body) (h' : Enclosed q body')
    (heq : body ++ q.char :: cs = body' ++ q.char :: cs') : body = body' ∧ cs = cs' := by
  induction h generalizing body' with
  | nil =>
      cases h' with
      | nil => exact ⟨rfl, List.tail_eq_of_cons_eq heq⟩
      | plain hquote _ _ _ => exact absurd (List.head_eq_of_cons_eq heq).symm hquote
      | pair _ _ => exact absurd (List.head_eq_of_cons_eq heq) q.char_ne_backslash
  | plain hquote hslash _ _ ih =>
      cases h' with
      | nil => exact absurd (List.head_eq_of_cons_eq heq) hquote
      | plain _ _ _ h' =>
          obtain ⟨rfl, htail⟩ := List.cons.inj heq
          obtain ⟨rfl, rfl⟩ := ih h' htail
          exact ⟨rfl, rfl⟩
      | pair _ _ => exact absurd (List.head_eq_of_cons_eq heq) hslash
  | pair _ _ ih =>
      cases h' with
      | nil => exact absurd (List.head_eq_of_cons_eq heq).symm q.char_ne_backslash
      | plain _ hslash _ _ => exact absurd (List.head_eq_of_cons_eq heq).symm hslash
      | pair _ h' =>
          obtain ⟨rfl, htail⟩ := List.cons.inj (List.tail_eq_of_cons_eq heq)
          obtain ⟨rfl, rfl⟩ := ih h' htail
          exact ⟨rfl, rfl⟩

theorem Run.append (h : Run cs) (h' : Run cs') : Run (cs ++ cs') := by
  induction h with
  | nil => exact h'
  | plain hend hline hquote _ ih => exact .plain hend hline hquote ih
  | literal hbody _ ih =>
      rw [List.cons_append, List.append_assoc]
      exact .literal hbody ih

/-- How a run begins that stands at the front of a text. -/
theorem Run.cases_cons {c : Char} (h : Run cs) (hstarts : cs <+: c :: cs') :
    cs = [] ∨
    (∃ rest, cs = c :: rest ∧ Run rest ∧ rest <+: cs' ∧ c ≠ ';' ∧ c ≠ '\n' ∧
      ∀ q : Quote, c ≠ q.char) ∨
    ∃ (q : Quote) (body rest : List Char), cs = q.char :: (body ++ q.char :: rest) ∧
      Enclosed q body ∧ Run rest ∧ c = q.char ∧ body ++ q.char :: rest <+: cs' := by
  cases h with
  | nil => exact .inl rfl
  | plain hend hline hquote hrest =>
      obtain ⟨rfl, htail⟩ := List.cons_prefix_cons.mp hstarts
      exact .inr (.inl ⟨_, rfl, hrest, htail, hend, hline, hquote⟩)
  | literal hbody hrest =>
      obtain ⟨rfl, htail⟩ := List.cons_prefix_cons.mp hstarts
      exact .inr (.inr ⟨_, _, _, rfl, hbody, hrest, rfl, htail⟩)

end

/-! ## Going over a text -/

/-- Where a reader of a script is. -/
inductive Position where
  | outside
  | inside (q : Quote)
  | escaped (q : Quote)
  deriving DecidableEq

namespace Position

def next : Position → Char → Position
  | outside, c => (Quote.ofChar? c).elim outside inside
  | inside q, c => if c = q.char then outside else if c = '\\' then escaped q else inside q
  | escaped q, _ => inside q

def after (p : Position) (cs : List Char) : Position := cs.foldl next p

theorem after_append (p : Position) (cs cs' : List Char) :
    p.after (cs ++ cs') = (p.after cs).after cs' :=
  List.foldl_append

theorem next_quote (q : Quote) : outside.next q.char = inside q := by
  rw [next, q.ofChar?_char]
  rfl

theorem next_plain {c : Char} (h : ∀ q : Quote, c ≠ q.char) : outside.next c = outside := by
  rw [next, Quote.ofChar?_eq_none_iff.mpr h]
  rfl

end Position

/-- A text in which no literal is cut off, and no semicolon or end of a line stands outside of
literals. -/
structure Uncut (cs : List Char) : Prop where
  closed : Position.outside.after cs = .outside
  unquoted : ∀ front c back, cs = front ++ c :: back → Position.outside.after front = .outside →
    c ≠ ';' ∧ c ≠ '\n'

section

variable {q : Quote} {body cs : List Char}

theorem Enclosed.after_eq (h : Enclosed q body) : (Position.inside q).after body = .inside q := by
  induction h with
  | nil => rfl
  | plain hquote hslash _ _ ih =>
      show ((Position.inside q).next _).after _ = _
      rw [Position.next, if_neg hquote, if_neg hslash, ih]
  | pair _ _ ih =>
      show (((Position.inside q).next '\\').next _).after _ = _
      rw [Position.next, if_neg q.char_ne_backslash.symm, if_pos rfl, Position.next, ih]

/-- Up to its closing quote a literal is not left. -/
theorem Enclosed.after_ne_outside (h : Enclosed q body) {front : List Char}
    (hfront : front <+: body) : (Position.inside q).after front ≠ .outside := by
  induction h generalizing front with
  | nil =>
      rw [List.prefix_nil.mp hfront]
      exact nofun
  | plain hquote hslash _ _ ih =>
      cases front with
      | nil => exact nofun
      | cons c front =>
          obtain ⟨rfl, htail⟩ := List.cons_prefix_cons.mp hfront
          show ((Position.inside q).next _).after _ ≠ _
          rw [Position.next, if_neg hquote, if_neg hslash]
          exact ih htail
  | pair _ _ ih =>
      match front with
      | [] => exact nofun
      | [c] =>
          obtain ⟨rfl, -⟩ := List.cons_prefix_cons.mp hfront
          show (Position.inside q).next '\\' ≠ _
          rw [Position.next, if_neg q.char_ne_backslash.symm, if_pos rfl]
          exact nofun
      | c :: d :: front =>
          obtain ⟨rfl, hbehind⟩ := List.cons_prefix_cons.mp hfront
          obtain ⟨rfl, htail⟩ := List.cons_prefix_cons.mp hbehind
          show (((Position.inside q).next '\\').next _).after _ ≠ _
          rw [Position.next, if_neg q.char_ne_backslash.symm, if_pos rfl, Position.next]
          exact ih htail

theorem Position.after_literal (h : Enclosed q body) (cs : List Char) :
    outside.after (q.char :: (body ++ q.char :: cs)) = outside.after cs := by
  show (outside.next q.char).after (body ++ q.char :: cs) = _
  rw [next_quote, after_append, h.after_eq]
  show ((inside q).next q.char).after cs = _
  rw [next, if_pos rfl]

theorem Run.uncut (h : Run cs) : Uncut cs := by
  induction h with
  | nil => exact ⟨rfl, fun front c back heq _ => absurd heq.symm (by simp)⟩
  | @plain c cs hend hline hquote _ ih =>
      have hafter : ∀ cs, Position.outside.after (c :: cs) = Position.outside.after cs := by
        intro cs
        show (Position.outside.next c).after cs = _
        rw [Position.next_plain hquote]
      refine ⟨(hafter cs).trans ih.closed, fun front d back heq hfront => ?_⟩
      cases front with
      | nil =>
          obtain rfl := List.head_eq_of_cons_eq heq
          exact ⟨hend, hline⟩
      | cons e front =>
          obtain ⟨rfl, htail⟩ := List.cons.inj heq
          rw [hafter] at hfront
          exact ih.unquoted front d back htail hfront
  | @literal q body cs hbody _ ih =>
      refine ⟨(Position.after_literal hbody cs).trans ih.closed, fun front d back heq hfront => ?_⟩
      cases front with
      | nil =>
          obtain rfl := List.head_eq_of_cons_eq heq
          exact not_or.mp q.char_ne_end
      | cons e front =>
          obtain ⟨rfl, htail⟩ := List.cons.inj heq
          rcases List.append_eq_append_iff.mp htail with ⟨more, rfl, hmore⟩ | ⟨more, rfl, -⟩
          · cases more with
            | nil =>
                obtain rfl := List.head_eq_of_cons_eq hmore
                exact not_or.mp q.char_ne_end
            | cons e more =>
                obtain ⟨rfl, hcs⟩ := List.cons.inj hmore
                rw [Position.after_literal hbody] at hfront
                exact ih.unquoted more d back hcs hfront
          · -- Inside of the literal nothing is outside.
            refine absurd ?_ (hbody.after_ne_outside (List.prefix_append front more))
            rw [← hfront]
            show _ = (Position.outside.next q.char).after front
            rw [Position.next_quote]

/-- A run in front of a semicolon or the end of a line is the longest. -/
theorem Run.longestRun (h : Run cs) {c : Char} (hc : c = ';' ∨ c = '\n') (rest : List Char) :
    LongestRun cs (cs ++ c :: rest) := by
  refine ⟨h, List.prefix_append cs _, fun other hother hstarts => ?_⟩
  by_contra hlonger
  obtain ⟨more, rfl⟩ := List.prefix_of_prefix_length_le (List.prefix_append cs _) hstarts
    (Nat.le_of_not_le hlonger)
  cases more with
  | nil => exact hlonger (by rw [List.append_nil])
  | cons d more =>
      obtain ⟨rfl, -⟩ := List.cons_prefix_cons.mp ((List.prefix_append_right_inj cs).mp hstarts)
      obtain ⟨hend, hline⟩ := hother.uncut.unquoted cs d more rfl h.uncut.closed
      exact hc.elim hend hline

/-- White space at the end of a run is no part of a literal. -/
theorem Run.of_append_blank {gap : List Char} (h : Run (cs ++ gap))
    (hgap : ∀ c ∈ gap, isBlank c) : Run cs := by
  have hquote : ∀ q : Quote, q.char ∉ gap := by
    intro q hmem
    have hblank := hgap _ hmem
    rw [q.isBlank_char] at hblank
    cases hblank
  generalize htext : cs ++ gap = text at h
  induction h generalizing cs with
  | nil =>
      rw [(List.append_eq_nil_iff.mp htext).1]
      exact .nil
  | plain hend hline hplain _ ih =>
      cases cs with
      | nil => exact .nil
      | cons d cs =>
          obtain ⟨rfl, htail⟩ := List.cons.inj htext
          exact .plain hend hline hplain (ih htail)
  | @literal q body rest hbody _ ih =>
      cases cs with
      | nil => exact .nil
      | cons d cs =>
          obtain ⟨rfl, htail⟩ := List.cons.inj htext
          rcases List.append_eq_append_iff.mp htail with ⟨more, -, hmore⟩ | ⟨more, rfl, hmore⟩
          · refine absurd ?_ (hquote q)
            rw [hmore]
            exact List.mem_append_right more List.mem_cons_self
          · cases more with
            | nil =>
                refine absurd ?_ (hquote q)
                rw [← List.nil_append gap, ← hmore]
                exact List.mem_cons_self
            | cons e more =>
                obtain ⟨rfl, hrest⟩ := List.cons.inj hmore
                exact .literal hbody (ih hrest.symm)

end

/-! ## The expression as a run -/

theorem run_expression (cs : List Char) : Run (expression cs).1 := by
  induction cs using expression_cases with
  | nil => exact .nil
  | stop c cs h =>
      rw [expression_end h]
      exact .nil
  | plain c cs hend hquote ih =>
      rw [not_or] at hend
      rw [expression_plain (not_or.mpr hend) hquote]
      exact .plain hend.1 hend.2 (Quote.ofChar?_eq_none_iff.mp hquote) ih
  | unclosed q cs h =>
      rw [expression_unclosed h]
      exact .nil
  | literal q body rest h ih =>
      rw [expression_literal h]
      exact .literal h.enclosed ih

/-- Whether a text begins with a literal between backquotes in which a backslash stands at the end
of a line. -/
def Continued (cs : List Char) : Prop :=
  ∃ body behind, cs = '\x60' :: (body ++ '\x60' :: behind) ∧ Enclosed .back body ∧
    ['\\', '\n'] <:+: body

theorem Run.length_le_expression {run cs : List Char} (h : Run run) (hstarts : run <+: cs)
    (hstop : ¬ Continued (expression cs).2) : run.length ≤ (expression cs).1.length := by
  induction cs using expression_cases generalizing run with
  | nil => exact hstarts.length_le
  | stop c cs hend =>
      obtain rfl | ⟨_, -, -, -, hends, hline, -⟩ | ⟨q, _, _, -, -, -, rfl, -⟩ :=
        h.cases_cons hstarts
      · exact Nat.zero_le _
      · exact absurd hend (not_or.mpr ⟨hends, hline⟩)
      · exact absurd hend q.char_ne_end
  | plain c cs hend hquote ih =>
      rw [expression_plain hend hquote] at hstop ⊢
      obtain rfl | ⟨rest, rfl, hrest, hstarts, -⟩ | ⟨q, _, _, -, -, -, rfl, -⟩ :=
        h.cases_cons hstarts
      · exact Nat.zero_le _
      · exact Nat.succ_le_succ (ih hrest hstarts hstop)
      · exact absurd rfl (Quote.ofChar?_eq_none_iff.mp hquote q)
  | unclosed q cs hnone =>
      rw [expression_unclosed hnone] at hstop
      obtain rfl | ⟨_, -, -, -, -, -, hquote⟩ | ⟨q', body, rest, -, hbody, -, hq, behind, rfl⟩ :=
        h.cases_cons hstarts
      · exact Nat.zero_le _
      · exact absurd rfl (hquote q)
      · -- The literal is there, so that the reader misses it for the backslash in it.
        obtain rfl := Quote.char_injective hq
        rw [List.append_assoc, List.cons_append] at hnone hstop
        have hcontinued : q = .back ∧ ['\\', '\n'] <:+: body := by
          by_contra hplain
          rw [not_and] at hplain
          rw [(hbody.literalText hplain).literalBody_append] at hnone
          cases hnone
        obtain ⟨rfl, hcontinued⟩ := hcontinued
        exact absurd ⟨body, rest ++ behind, rfl, hbody, hcontinued⟩ hstop
  | literal q body rest htext ih =>
      rw [expression_literal htext] at hstop ⊢
      obtain rfl | ⟨_, -, -, -, -, -, hquote⟩ |
        ⟨q', body', run', rfl, hbody, hrun', hq, behind, heq⟩ := h.cases_cons hstarts
      · exact Nat.zero_le _
      · exact absurd rfl (hquote q)
      · obtain rfl := Quote.char_injective hq
        rw [List.append_assoc, List.cons_append] at heq
        obtain ⟨rfl, rfl⟩ := hbody.append_inj htext.enclosed heq
        have hle := ih hrun' (List.prefix_append run' behind) hstop
        simp only [List.length_cons, List.length_append]
        omega

/-- The expression is the longest run unless it stops in front of a literal that goes on behind a
backslash at the end of a line. -/
theorem longestRun_iff (cs : List Char) :
    LongestRun (expression cs).1 cs ↔ ¬ Continued (expression cs).2 := by
  constructor
  · rintro ⟨hrun, -, hlongest⟩ ⟨body, behind, hbehind, hbody, -⟩
    have hlonger : Run ((expression cs).1 ++ '\x60' :: (body ++ ['\x60'])) :=
      hrun.append (.literal (q := .back) hbody .nil)
    have hle := hlongest _ hlonger ⟨behind, by
      rw [List.append_assoc, List.cons_append, List.append_assoc, List.singleton_append, ← hbehind,
        expression_append]⟩
    simp only [List.length_append, List.length_cons] at hle
    omega
  · intro hstop
    exact ⟨run_expression cs, ⟨_, expression_append cs⟩,
      fun other hother hstarts => hother.length_le_expression hstarts hstop⟩

/-! ## The expressions of a script -/

theorem uncut_trim {cs : List Char} (h : Run cs) (hfirst : ∀ c ∈ cs.head?, isBlank c = false) :
    Uncut (trim cs) := by
  have hgap : ∀ c ∈ cs.rtakeWhile isBlank, isBlank c := fun c hc => List.mem_rtakeWhile_imp hc
  refine (Run.of_append_blank ?_ hgap).uncut
  rw [trim, skipBlank_of_head hfirst]
  show Run (cs.rdropWhile isBlank ++ cs.rtakeWhile isBlank)
  rwa [List.rdropWhile_append_rtakeWhile]

/-- The assignments in a script are found in order and each behind the other. Their expressions are
never cut, and each is the longest run behind its sign unless it stops in front of a literal between
backquotes in which a backslash stands at the end of a line. -/
theorem expressions_longest_iff (script : String) :
    assignments script = (occurrences assignment script.toList).map Occurrence.value ∧
    (occurrences assignment script.toList).Pairwise Occurrence.Precedes ∧
    ∀ o ∈ occurrences assignment script.toList, ∃ (w : Written) (after : List Char),
      w.Readable after ∧ script.toList = o.before ++ (o.source ++ after) ∧ o.source = w.text ∧
        o.value = w.value ∧ Uncut o.value.expression.toList ∧
        (LongestRun w.right (w.right ++ after) ↔ ¬ Continued after) := by
  refine ⟨findAll_eq assignment _, pairwise_occurrences consumes_assignment _, fun o ho => ?_⟩
  obtain ⟨w, after, hw, htext, hsource, hvalue, hright⟩ := written_of_mem_occurrences ho
  have hrun : Run w.right := by
    have hrun := run_expression (w.right ++ after)
    rwa [hright] at hrun
  have hfirst : ∀ c ∈ w.right.head?, isBlank c = false := by
    intro c hc
    refine hw.first c ?_
    rw [List.head?_append, Option.mem_def.mp hc]
    rfl
  have hlongest := longestRun_iff (w.right ++ after)
  rw [hright] at hlongest
  refine ⟨w, after, hw, htext, hsource, hvalue, ?_, hlongest⟩
  rw [hvalue, Written.value, String.toList_ofList]
  exact uncut_trim hrun hfirst

/-- In front of a literal that goes on behind a backslash at the end of a line nothing is read. -/
theorem expression_stops_early :
    assignments "tests[\"a\"] = \x60x\\\ny\x60;" = [⟨"a", ""⟩] ∧
      LongestRun "\x60x\\\ny\x60".toList "\x60x\\\ny\x60;".toList := by
  have hbody : Enclosed .back ['x', '\\', '\n', 'y'] :=
    .plain (by decide) (by decide) nofun (.pair nofun
      (.plain (by decide) (by decide) nofun .nil))
  exact ⟨by decide, (Run.literal hbody .nil).longestRun (.inl rfl) []⟩

end LoadScenario.Script
