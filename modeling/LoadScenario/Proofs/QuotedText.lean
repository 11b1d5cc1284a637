import LoadScenario.Proofs.TextSearch
import LoadScenario.Script.Assignment

/-!
# What literals and expressions may hold

The reader of literals goes forward without ever coming back, so what it accepts can be said without
it: between the quotes stand plain characters and pairs of a backslash and the character that it
takes. `literalBody_eq_some_iff` says that the reader finds such a text and nothing else, wherever
the literal stands. In particular any text can be written as a literal, by a backslash in front of
every backslash and every quote, and is found again.

An expression is made of literals and of characters between them. Its reader skips the characters
of a literal one by one, and here it is opened once: a literal is taken whole, and nothing is lost
between the expression and what follows it.
-/

namespace LoadScenario.Script

/-- What may stand between two quotes, where a literal may be bound to keep to one line. -/
inductive LiteralText (q : Quote) (oneLine : Bool) : List Char → Prop
  | nil : LiteralText q oneLine []
  | plain {c : Char} {cs : List Char} : c ≠ q.char → c ≠ '\\' → (oneLine → c ≠ '\n') →
      LiteralText q oneLine cs → LiteralText q oneLine (c :: cs)
  | pair {d : Char} {cs : List Char} : d ≠ '\n' →
      LiteralText q oneLine cs → LiteralText q oneLine ('\\' :: d :: cs)

section

variable {q : Quote} {oneLine : Bool} {c d : Char} {cs : List Char}

theorem Quote.char_ne_backslash (q : Quote) : q.char ≠ '\\' := by cases q <;> decide

theorem Quote.char_ne_newline (q : Quote) : q.char ≠ '\n' := by cases q <;> decide

theorem Quote.ofChar?_char (q : Quote) : Quote.ofChar? q.char = some q := by cases q <;> decide

theorem Quote.ofChar?_eq_some_iff : Quote.ofChar? c = some q ↔ c = q.char := by
  constructor
  · intro h
    rw [ofChar?] at h
    split at h
    · cases h; assumption
    · split at h
      · cases h; assumption
      · split at h
        · cases h; assumption
        · cases h
  · rintro rfl
    exact q.ofChar?_char

/-! ## The steps of the reader -/

theorem literalBody_close : literalBody q oneLine (q.char :: cs) = some ([], cs) := by
  cases cs with
  | nil => rw [literalBody, if_pos rfl]
  | cons d cs => rw [literalBody, if_pos rfl]

theorem literalBody_pair (hd : d ≠ '\n') : literalBody q oneLine ('\\' :: d :: cs) =
    (literalBody q oneLine cs).map fun (body, rest) => ('\\' :: d :: body, rest) := by
  rw [literalBody, if_neg q.char_ne_backslash.symm, if_pos rfl, if_neg hd]

theorem literalBody_plain (hquote : c ≠ q.char) (hslash : c ≠ '\\')
    (hline : oneLine → c ≠ '\n') : literalBody q oneLine (c :: cs) =
      (literalBody q oneLine cs).map fun (body, rest) => (c :: body, rest) := by
  cases cs with
  | nil => exact if_neg hquote
  | cons d cs =>
      have hstay : ¬ (oneLine && c = '\n') = true := by
        rw [Bool.and_eq_true, decide_eq_true_iff]
        exact fun h => hline h.1 h.2
      rw [literalBody, if_neg hquote, if_neg hslash, if_neg hstay]

/-! ## What the reader accepts -/

theorem LiteralText.literalBody_append {body : List Char} (h : LiteralText q oneLine body)
    (rest : List Char) : literalBody q oneLine (body ++ q.char :: rest) = some (body, rest) := by
  induction h with
  | nil => exact literalBody_close
  | plain hquote hslash hline _ ih =>
      rw [List.cons_append, literalBody_plain hquote hslash hline, ih]
      rfl
  | pair hd _ ih =>
      rw [List.cons_append, List.cons_append, literalBody_pair hd, ih]
      rfl

theorem literalText_of_literalBody {body rest : List Char}
    (h : literalBody q oneLine cs = some (body, rest)) :
    cs = body ++ q.char :: rest ∧ LiteralText q oneLine body := by
  fun_induction literalBody q oneLine cs generalizing body with
  | case1 => cases h
  | case2 => cases h; exact ⟨rfl, .nil⟩
  | case3 => cases h
  | case4 => cases h; exact ⟨rfl, .nil⟩
  | case5 => cases h
  | case6 d cs hd _ ih =>
      obtain ⟨⟨body', rest'⟩, hrest, heq⟩ := Option.map_eq_some_iff.mp h
      cases heq
      obtain ⟨rfl, hbody⟩ := ih hrest
      exact ⟨rfl, .pair hd hbody⟩
  | case7 => cases h
  | case8 c d cs hquote hslash hstay ih =>
      obtain ⟨⟨body', rest'⟩, hrest, heq⟩ := Option.map_eq_some_iff.mp h
      cases heq
      obtain ⟨hsource, hbody⟩ := ih hrest
      refine ⟨by rw [hsource, List.cons_append], .plain hquote hslash (fun hline hc => ?_) hbody⟩
      exact hstay (by rw [hline, hc]; rfl)

theorem literalBody_eq_some_iff {body rest : List Char} :
    literalBody q oneLine cs = some (body, rest) ↔
      cs = body ++ q.char :: rest ∧ LiteralText q oneLine body := by
  refine ⟨literalText_of_literalBody, ?_⟩
  rintro ⟨rfl, hbody⟩
  exact hbody.literalBody_append rest

/-- A literal is read where one stands, and nowhere else. -/
theorem literal_eq_some_iff {oneLine : Quote → Bool} {body rest : List Char} :
    literal oneLine cs = some (body, rest) ↔ ∃ q : Quote,
      cs = q.char :: (body ++ q.char :: rest) ∧ LiteralText q (oneLine q) body := by
  constructor
  · intro h
    cases cs with
    | nil => cases h
    | cons c cs =>
        obtain ⟨q, hquote, hbody⟩ := Option.bind_eq_some_iff.mp h
        obtain rfl := Quote.ofChar?_eq_some_iff.mp hquote
        obtain ⟨rfl, htext⟩ := literalBody_eq_some_iff.mp hbody
        exact ⟨q, rfl, htext⟩
  · rintro ⟨q, rfl, htext⟩
    rw [literal, q.ofChar?_char, Option.bind_some]
    exact htext.literalBody_append rest

theorem LiteralText.append {q : Quote} {oneLine : Bool} {body body' : List Char}
    (h : LiteralText q oneLine body) (h' : LiteralText q oneLine body') :
    LiteralText q oneLine (body ++ body') := by
  induction h with
  | nil => exact h'
  | plain hquote hslash hline _ ih => exact .plain hquote hslash hline ih
  | pair hd _ ih => exact .pair hd ih

theorem LiteralText.not_mem_newline {body : List Char} (h : LiteralText q true body) :
    '\n' ∉ body := by
  induction h with
  | nil => exact List.not_mem_nil
  | plain _ _ hline _ ih => exact fun hmem =>
      (List.mem_cons.mp hmem).elim (fun heq => hline rfl heq.symm) ih
  | pair hd _ ih =>
      intro hmem
      rcases List.mem_cons.mp hmem with heq | hmem
      · exact absurd heq (by decide)
      · exact (List.mem_cons.mp hmem).elim (fun heq => hd heq.symm) ih

end

/-! ## Taking escapes away -/

section

variable {c d : Char} {cs : List Char}

theorem withoutEscapes_plain (hc : c ≠ '\\') (cs : List Char) :
    withoutEscapes (c :: cs) = c :: withoutEscapes cs := by
  cases cs with
  | nil => rfl
  | cons d cs => rw [withoutEscapes, if_neg hc]

theorem withoutEscapes_pair (hd : d ≠ '\n') (cs : List Char) :
    withoutEscapes ('\\' :: d :: cs) = d :: withoutEscapes cs := by
  rw [withoutEscapes, if_pos rfl, if_neg hd]

theorem withoutEscapes_append (h : ∀ c ∈ cs, c ≠ '\\') (rest : List Char) :
    withoutEscapes (cs ++ rest) = cs ++ withoutEscapes rest := by
  induction cs with
  | nil => rfl
  | cons c cs ih =>
      rw [List.forall_mem_cons] at h
      rw [List.cons_append, withoutEscapes_plain h.1, ih h.2, List.cons_append]

end

/-! ## Writing a literal -/

namespace Quote

def escape (q : Quote) (c : Char) : List Char := if c = '\\' ∨ c = q.char then ['\\', c] else [c]

/-- A text between quotes, with its backslashes and quotes escaped. -/
def quoted (q : Quote) (cs : List Char) : List Char := q.char :: (cs.flatMap q.escape ++ [q.char])

variable (q : Quote) (oneLine : Bool)

theorem literalText_escaped {cs : List Char} (h : oneLine → '\n' ∉ cs) :
    LiteralText q oneLine (cs.flatMap q.escape) := by
  induction cs with
  | nil => exact .nil
  | cons c cs ih =>
      have hrest := ih fun hline hmem => h hline (List.mem_cons_of_mem c hmem)
      rw [List.flatMap_cons, escape]
      split
      next hescaped =>
        refine .pair ?_ hrest
        rintro rfl
        exact hescaped.elim (by decide) (fun hquote => q.char_ne_newline hquote.symm)
      next hplain =>
        rw [not_or] at hplain
        refine .plain hplain.2 hplain.1 (fun hline heq => h hline ?_) hrest
        rw [heq]
        exact List.mem_cons_self

theorem withoutEscapes_escaped (cs : List Char) :
    withoutEscapes (cs.flatMap q.escape) = cs := by
  induction cs with
  | nil => rfl
  | cons c cs ih =>
      rw [List.flatMap_cons, escape]
      split
      next hescape =>
        have hc : c ≠ '\n' := by
          rintro rfl
          exact hescape.elim (by decide) (fun hquote => q.char_ne_newline hquote.symm)
        exact (withoutEscapes_pair hc _).trans (congrArg _ ih)
      next hplain =>
        exact (withoutEscapes_plain (not_or.mp hplain).1 _).trans (congrArg _ ih)

end Quote

/-- A text that has been written as a literal is found again. -/
theorem literal_quoted (oneLine : Quote → Bool) (q : Quote) {cs : List Char}
    (h : oneLine q → '\n' ∉ cs) (rest : List Char) :
    literal oneLine (q.quoted cs ++ rest) = some (cs.flatMap q.escape, rest) := by
  rw [Quote.quoted, List.cons_append, literal, q.ofChar?_char, Option.bind_some, List.append_assoc]
  exact (q.literalText_escaped _ h).literalBody_append rest

/-! ## Expressions -/

section

variable {c : Char} {cs : List Char}

theorem expressionFrom_length_append (skipped rest : List Char) :
    expressionFrom skipped.length (skipped ++ rest) =
      (skipped ++ (expression rest).1, (expression rest).2) := by
  induction skipped with
  | nil => rfl
  | cons c skipped ih => rw [List.length_cons, List.cons_append, expressionFrom, ih]; rfl

theorem expression_end (h : c = ';' ∨ c = '\n') : expression (c :: cs) = ([], c :: cs) := by
  rw [expression, expressionFrom, if_pos]
  rw [Bool.or_eq_true, decide_eq_true_iff, decide_eq_true_iff]
  exact h

theorem expression_plain (hend : ¬ (c = ';' ∨ c = '\n')) (hquote : Quote.ofChar? c = none) :
    expression (c :: cs) = (c :: (expression cs).1, (expression cs).2) := by
  rw [expression, expressionFrom, if_neg, hquote]
  · rfl
  · rwa [Bool.or_eq_true, decide_eq_true_iff, decide_eq_true_iff]

theorem Quote.char_ne_end (q : Quote) : ¬ (q.char = ';' ∨ q.char = '\n') := by
  cases q <;> decide

theorem expression_unclosed {q : Quote} (h : literalBody q q.oneLine cs = none) :
    expression (q.char :: cs) = ([], q.char :: cs) := by
  rw [expression, expressionFrom, if_neg, q.ofChar?_char]
  · simp only
    rw [h]
  · rw [Bool.or_eq_true, decide_eq_true_iff, decide_eq_true_iff]
    exact q.char_ne_end

/-- A literal belongs to the expression as a whole. -/
theorem expression_literal {q : Quote} {body rest : List Char}
    (h : LiteralText q q.oneLine body) : expression (q.char :: (body ++ q.char :: rest)) =
      (q.char :: (body ++ q.char :: (expression rest).1), (expression rest).2) := by
  have hskip : (body ++ q.char :: rest).length - rest.length = (body ++ [q.char]).length := by
    rw [List.length_append, List.length_append, List.length_cons, List.length_singleton]
    omega
  have hsource : body ++ q.char :: rest = body ++ [q.char] ++ rest := List.append_cons ..
  rw [expression, expressionFrom, if_neg, q.ofChar?_char]
  · simp only
    rw [h.literalBody_append]
    simp only
    rw [hskip, hsource, expressionFrom_length_append, List.append_assoc]
    rfl
  · rw [Bool.or_eq_true, decide_eq_true_iff, decide_eq_true_iff]
    exact q.char_ne_end

end

/-- How an expression begins: it is over, or a plain character, an unclosed literal or a literal
comes first. -/
theorem expression_cases {motive : List Char → Prop} (nil : motive [])
    (stop : ∀ c cs, c = ';' ∨ c = '\n' → motive (c :: cs))
    (plain : ∀ c cs, ¬ (c = ';' ∨ c = '\n') → Quote.ofChar? c = none → motive cs →
      motive (c :: cs))
    (unclosed : ∀ q cs, literalBody q q.oneLine cs = none → motive (q.char :: cs))
    (literal : ∀ q body rest, LiteralText q q.oneLine body → motive rest →
      motive (q.char :: (body ++ q.char :: rest))) (cs : List Char) : motive cs := by
  match cs with
  | [] => exact nil
  | c :: cs =>
      by_cases hend : c = ';' ∨ c = '\n'
      · exact stop c cs hend
      · cases hquote : Quote.ofChar? c with
        | none =>
            exact plain c cs hend hquote
              (expression_cases nil stop plain unclosed literal cs)
        | some q =>
            obtain rfl := Quote.ofChar?_eq_some_iff.mp hquote
            cases hbody : literalBody q q.oneLine cs with
            | none => exact unclosed q cs hbody
            | some result =>
                obtain ⟨body, rest⟩ := result
                obtain ⟨rfl, htext⟩ := literalBody_eq_some_iff.mp hbody
                exact literal q body rest htext
                  (expression_cases nil stop plain unclosed literal rest)
termination_by cs.length
decreasing_by
  · simp
  · simp_all
    omega

theorem expression_append (cs : List Char) : (expression cs).1 ++ (expression cs).2 = cs := by
  induction cs using expression_cases with
  | nil => rfl
  | stop c cs h => rw [expression_end h]; rfl
  | plain c cs hend hquote ih =>
      rw [expression_plain hend hquote, List.cons_append, ih]
  | unclosed q cs h => rw [expression_unclosed h]; rfl
  | literal q body rest h ih =>
      rw [expression_literal h, List.cons_append, List.append_assoc, List.cons_append, ih]

/-- A text that belongs to the expression as a whole, whatever follows it. -/
def Whole (cs : List Char) : Prop :=
  ∀ rest, expression (cs ++ rest) = (cs ++ (expression rest).1, (expression rest).2)

theorem Whole.append {cs cs' : List Char} (h : Whole cs) (h' : Whole cs') : Whole (cs ++ cs') := by
  intro rest
  rw [List.append_assoc, h, h', List.append_assoc]

theorem Whole.intercalate {separator : List Char} (hseparator : Whole separator)
    {parts : List (List Char)} (hparts : ∀ part ∈ parts, Whole part) :
    Whole (separator.intercalate parts) := by
  induction parts with
  | nil => exact fun _ => rfl
  | cons part parts ih =>
      rw [List.forall_mem_cons] at hparts
      cases parts with
      | nil =>
          rw [List.intercalate_singleton]
          exact hparts.1
      | cons part' parts =>
          rw [List.intercalate_cons_cons]
          exact (hparts.1.append hseparator).append (ih hparts.2)

theorem whole_of_plain {cs : List Char}
    (h : ∀ c ∈ cs, ¬ (c = ';' ∨ c = '\n') ∧ Quote.ofChar? c = none) : Whole cs := by
  intro rest
  induction cs with
  | nil => rfl
  | cons c cs ih =>
      rw [List.forall_mem_cons] at h
      rw [List.cons_append, expression_plain h.1.1 h.1.2, ih h.2]
      rfl

theorem whole_quoted (q : Quote) {cs : List Char} (h : '\n' ∉ cs) : Whole (q.quoted cs) := by
  intro rest
  simp only [Quote.quoted, List.cons_append, List.append_assoc, List.nil_append]
  exact expression_literal (q.literalText_escaped q.oneLine fun _ => h)

/-! ## Assignments -/

theorem assignment_of_ne {c : Char} (hc : c ≠ 't') (previous : Option Char) (cs : List Char) :
    assignment previous (c :: cs) = none := by
  have hword : "tests".toList = 't' :: "ests".toList := rfl
  rw [assignment, hword, Text.expect_cons_of_ne hc]
  rfl

end LoadScenario.Script
