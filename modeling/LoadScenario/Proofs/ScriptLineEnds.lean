import LoadScenario.Proofs.LineEnds
import LoadScenario.Script.Parsed
import Mathlib.Data.List.TakeWhile

/-!
# Scripts whose lines end with a carriage return

Each idiom of a script is recognised by a chain of steps that go forward in the text, and each step
answers the same whether line ends have a carriage return or not. So the chain does, too, and what
is left to look at is where a chain ends: an expression and the comment behind a call may take the
carriage return along, which is trimmed off.

All this is about scripts without backquotes. A text between backquotes may run over several lines,
and then the line ends belong to the text.
-/

namespace LoadScenario.Script

open Text

/-! ## Literals and expressions -/

theorem literalBody_withReturns (q : Quote) (cs : List Char) :
    literalBody q true (withReturns cs) =
      (literalBody q true cs).map fun (body, rest) => (body, withReturns rest) := by
  have hquote : Inline q.char := by cases q <;> exact ⟨by decide, by decide⟩
  cases h : literalBody q true cs with
  | some result =>
      obtain ⟨body, rest⟩ := result
      obtain ⟨rfl, htext⟩ := literalBody_eq_some_iff.mp h
      rw [withReturns_append, withReturns_of_not_mem htext.not_mem_newline,
        withReturns_cons hquote.1, htext.literalBody_append]
      rfl
  | none =>
      cases h' : literalBody q true (withReturns cs) with
      | none => rfl
      | some result =>
          obtain ⟨body, rest'⟩ := result
          obtain ⟨hsource, htext⟩ := literalBody_eq_some_iff.mp h'
          obtain ⟨rest, rfl⟩ := append_cons_of_withReturns hquote htext.not_mem_newline hsource
          rw [htext.literalBody_append] at h
          cases h

theorem oneLine_of_ne_backquote {c : Char} {q : Quote} (hc : c ≠ '\x60')
    (h : Quote.ofChar? c = some q) : q.oneLine = true := by
  obtain rfl := Quote.ofChar?_eq_some_iff.mp h
  cases q with
  | double | single => rfl
  | back => exact absurd rfl hc

theorem literal_withReturns {cs : List Char} (hcs : '\x60' ∉ cs) :
    literal Quote.oneLine (withReturns cs) =
      (literal Quote.oneLine cs).map fun (body, rest) => (body, withReturns rest) := by
  cases cs with
  | nil => rfl
  | cons c cs =>
      rw [List.mem_cons, not_or] at hcs
      by_cases hc : c = '\n'
      · rw [hc]; rfl
      · rw [withReturns_cons hc, literal, literal]
        cases hq : Quote.ofChar? c with
        | none => rfl
        | some q =>
            rw [Option.bind_some, Option.bind_some,
              oneLine_of_ne_backquote (Ne.symm hcs.1) hq, literalBody_withReturns]

theorem literal_suffix {oneLine : Quote → Bool} {cs body rest : List Char}
    (h : literal oneLine cs = some (body, rest)) : rest <:+ cs := by
  obtain ⟨q, rfl, -⟩ := literal_eq_some_iff.mp h
  rw [List.append_cons]
  exact (List.suffix_append _ rest).trans (List.suffix_cons _ _)

/-- An expression may take the carriage return of its line along. -/
theorem endsAlike_expression {cs : List Char} (hcs : '\x60' ∉ cs) :
    EndsAlike (expression cs) (expression (withReturns cs)) := by
  induction cs using expression_cases with
  | nil => exact .same [] []
  | stop c cs h =>
      rw [expression_end h]
      rcases h with rfl | rfl
      · rw [withReturns_cons (by decide), expression_end (.inl rfl),
          ← withReturns_cons (by decide)]
        exact .same _ _
      · rw [withReturns_newline, expression_plain (by decide) (by decide),
          expression_end (.inr rfl)]
        exact .between [] cs
  | plain c cs hend hquote ih =>
      rw [List.mem_cons, not_or] at hcs
      rw [withReturns_cons (fun hc => hend (.inr hc)), expression_plain hend hquote,
        expression_plain hend hquote]
      exact (ih hcs.2).prepend [c]
  | unclosed q cs h =>
      rw [List.mem_cons, not_or] at hcs
      have hline := oneLine_of_ne_backquote (Ne.symm hcs.1) q.ofChar?_char
      have h' : literalBody q q.oneLine (withReturns cs) = none := by
        rw [hline] at h ⊢
        rw [literalBody_withReturns, h]
        rfl
      rw [withReturns_cons q.char_ne_newline, expression_unclosed h, expression_unclosed h',
        ← withReturns_cons q.char_ne_newline]
      exact .same _ _
  | literal q body rest h ih =>
      rw [List.mem_cons, not_or, List.mem_append, not_or, List.mem_cons, not_or] at hcs
      have hline := oneLine_of_ne_backquote (Ne.symm hcs.1) q.ofChar?_char
      have hbody : '\n' ∉ body := by
        rw [hline] at h
        exact h.not_mem_newline
      have hfront : ∀ rest, expression (q.char :: (body ++ q.char :: rest)) =
          ((q.char :: body ++ [q.char]) ++ (expression rest).1, (expression rest).2) := by
        intro rest
        rw [expression_literal h, List.append_assoc]
        rfl
      rw [withReturns_cons q.char_ne_newline, withReturns_append, withReturns_of_not_mem hbody,
        withReturns_cons q.char_ne_newline, hfront, hfront]
      exact (ih hcs.2.2.2).prepend _

/-! ## Chains of steps -/

section

variable {α : Type} {limit cs : List Char}

/-- A step that goes forward and answers the same. -/
theorem corresponds_step {x x' : Option (List Char)} (hx : x' = x.map withReturns)
    (hsuffix : ∀ rest, x = some rest → rest <:+ limit)
    {next next' : List Char → Option (α × List Char)}
    (h : ∀ rest, rest <:+ limit → Corresponds limit (next rest) (next' (withReturns rest))) :
    Corresponds limit (x >>= next) (x' >>= next') := by
  rw [hx]
  cases x with
  | none => exact .none
  | some rest => exact h rest (hsuffix rest rfl)

theorem expect_suffix {w rest : List Char} (h : expect w cs = some rest) : rest <:+ cs := by
  rw [expect_eq_some_iff.mp h]
  exact List.suffix_append w rest

theorem corresponds_expect {w : List Char} (hw : ∀ c ∈ w, Inline c) (hcs : cs <:+ limit)
    {next next' : List Char → Option (α × List Char)}
    (h : ∀ rest, rest <:+ limit → Corresponds limit (next rest) (next' (withReturns rest))) :
    Corresponds limit (expect w cs >>= next) (expect w (withReturns cs) >>= next') :=
  corresponds_step (expect_withReturns hw cs) (fun _ hrest => (expect_suffix hrest).trans hcs) h

theorem corresponds_skipBlank_expect {w : List Char} (hw : ∀ c ∈ w, Inline c) (hcs : cs <:+ limit)
    {next next' : List Char → Option (α × List Char)}
    (h : ∀ rest, rest <:+ limit → Corresponds limit (next rest) (next' (withReturns rest))) :
    Corresponds limit (expect w (skipBlank cs) >>= next)
      (expect w (skipBlank (withReturns cs)) >>= next') := by
  rw [skipBlank_withReturns]
  exact corresponds_expect hw ((List.dropWhile_suffix _).trans hcs) h

/-- The first word of an idiom lies behind the place at which the idiom is recognised. -/
theorem corresponds_expect_cons {w : List Char} {d c : Char} (hw : ∀ c ∈ w, Inline c)
    {next next' : List Char → Option (α × List Char)}
    (h : ∀ rest, rest <:+ cs → Corresponds cs (next rest) (next' (withReturns rest))) :
    Corresponds cs (expect (d :: w) (c :: cs) >>= next)
      (expect (d :: w) (c :: withReturns cs) >>= next') := by
  rw [expect, expect]
  split
  · exact corresponds_expect hw (List.suffix_refl cs) h
  · exact .none

/-- A step that reads something and answers the same. -/
theorem corresponds_bind {β : Type} {x x' : Option (β × List Char)}
    (hx : x' = x.map fun (b, rest) => (b, withReturns rest))
    (hsuffix : ∀ b rest, x = some (b, rest) → rest <:+ limit)
    {next next' : β × List Char → Option (α × List Char)}
    (h : ∀ b rest, rest <:+ limit →
      Corresponds limit (next (b, rest)) (next' (b, withReturns rest))) :
    Corresponds limit (x >>= next) (x' >>= next') := by
  rw [hx]
  cases x with
  | none => exact .none
  | some result =>
      obtain ⟨b, rest⟩ := result
      exact h b rest (hsuffix b rest rfl)

end

theorem not_mem_of_suffix {a : Char} {cs cs' : List Char} (h : a ∉ cs) (hsuffix : cs' <:+ cs) :
    a ∉ cs' :=
  fun hmem => h (hsuffix.subset hmem)

theorem skipBlank_suffix {cs limit : List Char} (h : cs <:+ limit) : skipBlank cs <:+ limit :=
  (List.dropWhile_suffix _).trans h

/-! ## Assignments -/

theorem lineBlind_assignment : LineBlind assignment where
  atLineEnd previous c cs hc := by
    refine assignment_of_ne ?_ previous cs
    rintro rfl
    exact hc (by decide)
  corresponds previous c cs hc hcs := by
    have hbare : '\x60' ∉ cs := fun hmem => hcs (List.mem_cons_of_mem c hmem)
    have hword : "tests".toList = ['t', 'e', 's', 't', 's'] := rfl
    rw [assignment, assignment, hword]
    refine corresponds_expect_cons (by decide) fun cs₁ h₁ => ?_
    refine corresponds_skipBlank_expect (by decide) h₁ fun cs₂ h₂ => ?_
    have hname := not_mem_of_suffix hbare (skipBlank_suffix h₂)
    rw [skipBlank_withReturns]
    refine corresponds_bind (literal_withReturns hname)
      (fun name rest h => (literal_suffix h).trans (skipBlank_suffix h₂)) fun name cs₃ h₃ => ?_
    refine corresponds_skipBlank_expect (by decide) h₃ fun cs₄ h₄ => ?_
    refine corresponds_skipBlank_expect (by decide) h₄ fun cs₅ h₅ => ?_
    rw [skipBlank_withReturns]
    have hright := endsAlike_expression (not_mem_of_suffix hbare (skipBlank_suffix h₅))
    have hsuffix : (expression (skipBlank cs₅)).2 <:+ cs :=
      List.IsSuffix.trans ⟨_, expression_append (skipBlank cs₅)⟩ (skipBlank_suffix h₅)
    show Corresponds cs
      (some (Assignment.mk _ (String.ofList (trim (expression _).1)), (expression _).2))
      (some (Assignment.mk _ (String.ofList (trim (expression _).1)), (expression _).2))
    rw [hright.trim_eq]
    exact .some hsuffix hright.left

theorem assignments_withReturns {script : String} (h : '\x60' ∉ script.toList) :
    assignments (String.ofList (withReturns script.toList)) = assignments script := by
  rw [assignments, assignments, String.toList_ofList, lineBlind_assignment.findAll_withReturns h]

/-! ## Calls that set variables -/

theorem setterCall_withReturns (previous : Option Char) (cs : List Char) :
    setterCall previous (withReturns cs) = (setterCall previous cs).map withReturns := by
  have hfunction : ∀ cs, setterFunctions.findSome? (expect · (withReturns cs)) =
      (setterFunctions.findSome? (expect · cs)).map withReturns := by
    intro cs
    simp only [setterFunctions, List.findSome?_cons, List.findSome?_nil,
      expect_withReturns (w := "setEnvironmentVariable".toList) (by decide),
      expect_withReturns (w := "setGlobalVariable".toList) (by decide)]
    cases expect "setEnvironmentVariable".toList cs with
    | some rest => rfl
    | none => cases expect "setGlobalVariable".toList cs <;> rfl
  rw [setterCall, setterCall, expect_withReturns (by decide)]
  cases expect "postman.".toList cs with
  | some rest => exact hfunction rest
  | none =>
      simp only [Option.map_none]
      split
      · rfl
      · exact hfunction cs

/-- The call begins with a letter, so what is behind it lies behind that letter. -/
theorem setterCall_cons {previous : Option Char} {c : Char} {cs rest : List Char}
    (h : setterCall previous (c :: cs) = some rest) : Inline c ∧ rest <:+ cs := by
  have hword : ∀ {d : Char} {w rest : List Char}, Inline d →
      expect (d :: w) (c :: cs) = some rest → Inline c ∧ rest <:+ cs := by
    intro d w rest hd hrest
    have htext := expect_eq_some_iff.mp hrest
    rw [List.cons_append] at htext
    obtain ⟨rfl, rfl⟩ := List.cons.inj htext
    exact ⟨hd, List.suffix_append w rest⟩
  have hfunction : ∀ {cs' rest : List Char},
      setterFunctions.findSome? (expect · cs') = some rest → rest <:+ cs' := by
    intro cs' rest hrest
    obtain ⟨w, -, hw⟩ := List.exists_of_findSome?_eq_some hrest
    exact expect_suffix hw
  rw [setterCall] at h
  split at h
  · next cs' hpostman =>
      obtain ⟨hc, hcs'⟩ := hword (by decide) hpostman
      exact ⟨hc, (hfunction h).trans hcs'⟩
  · split at h
    · cases h
    · obtain ⟨w, hmem, hw⟩ := List.exists_of_findSome?_eq_some h
      rcases List.mem_cons.mp hmem with rfl | hmem
      · exact hword (by decide) hw
      · obtain rfl := List.mem_singleton.mp hmem
        exact hword (by decide) hw

theorem quoteMark_withReturns (cs : List Char) :
    quoteMark (withReturns cs) = (quoteMark cs).map withReturns := by
  cases cs with
  | nil => rfl
  | cons c cs =>
      by_cases hc : c = '\n'
      · rw [hc]; rfl
      · rw [withReturns_cons hc, quoteMark, quoteMark]
        cases Quote.ofChar? c <;> rfl

theorem quoteMark_suffix {cs rest : List Char} (h : quoteMark cs = some rest) : rest <:+ cs := by
  cases cs with
  | nil => cases h
  | cons c cs =>
      obtain ⟨q, -, rfl⟩ := Option.map_eq_some_iff.mp h
      exact List.suffix_cons c cs

theorem upTo_suffix {w cs inner rest : List Char} (h : upTo w cs = some (inner, rest)) :
    rest <:+ cs := by
  induction cs generalizing inner with
  | nil => cases h
  | cons c cs ih =>
      rw [upTo] at h
      split at h
      · next hclose =>
          cases h
          exact expect_suffix hclose
      · split at h
        · cases h
        · obtain ⟨⟨inner', rest'⟩, hlater, heq⟩ := Option.map_eq_some_iff.mp h
          cases heq
          exact (ih hlater).trans (List.suffix_cons c cs)

/-- The text behind the mark of a comment that names a place. -/
def commentText (cs : List Char) : Option (List Char) :=
  (expect "//".toList (skipBlank ((expect [';'] (skipBlank cs)).getD (skipBlank cs)))).bind
    fun cs => expect "JSONPath=".toList (skipBlank cs)

theorem pathComment_eq (cs : List Char) : pathComment cs =
    (commentText cs).map fun cs => (cs.takeWhile (· ≠ '\n'), cs.dropWhile (· ≠ '\n')) := by
  rw [pathComment, commentText]
  cases expect "//".toList (skipBlank ((expect [';'] (skipBlank cs)).getD (skipBlank cs))) with
  | none => rfl
  | some rest =>
      rw [Option.bind_some]
      show ((expect "JSONPath=".toList (skipBlank rest)).bind fun cs => _) = _
      cases expect "JSONPath=".toList (skipBlank rest) <;> rfl

theorem commentText_withReturns (cs : List Char) :
    commentText (withReturns cs) = (commentText cs).map withReturns := by
  have hsemicolon : (expect [';'] (withReturns (skipBlank cs))).getD (withReturns (skipBlank cs)) =
      withReturns ((expect [';'] (skipBlank cs)).getD (skipBlank cs)) := by
    rw [expect_withReturns (by decide)]
    cases expect [';'] (skipBlank cs) <;> rfl
  rw [commentText, commentText, skipBlank_withReturns, hsemicolon, skipBlank_withReturns,
    expect_withReturns (by decide)]
  cases expect "//".toList (skipBlank ((expect [';'] (skipBlank cs)).getD (skipBlank cs))) with
  | none => rfl
  | some rest =>
      rw [Option.map_some, Option.bind_some, Option.bind_some, skipBlank_withReturns,
        expect_withReturns (by decide)]

theorem commentText_suffix {cs rest : List Char} (h : commentText cs = some rest) :
    rest <:+ cs := by
  obtain ⟨cs', hslashes, hmark⟩ := Option.bind_eq_some_iff.mp h
  have hsemicolon : (expect [';'] (skipBlank cs)).getD (skipBlank cs) <:+ cs := by
    cases hexpect : expect [';'] (skipBlank cs) with
    | none => exact skipBlank_suffix (List.suffix_refl cs)
    | some rest => exact (expect_suffix hexpect).trans (skipBlank_suffix (List.suffix_refl cs))
  exact (expect_suffix hmark).trans
    (skipBlank_suffix ((expect_suffix hslashes).trans (skipBlank_suffix hsemicolon)))

theorem lineBlind_setter : LineBlind setter where
  atLineEnd previous c cs hc := by
    cases hcall : setterCall previous (c :: cs) with
    | none => rw [setter, hcall]; rfl
    | some rest => exact absurd (setterCall_cons hcall).1 hc
  corresponds previous c cs hc _ := by
    have hcall := setterCall_withReturns previous (c :: cs)
    rw [withReturns_cons hc] at hcall
    rw [setter, setter]
    refine corresponds_step hcall (fun rest h => (setterCall_cons h).2) fun cs₁ h₁ => ?_
    refine corresponds_skipBlank_expect (by decide) h₁ fun cs₂ h₂ => ?_
    rw [skipBlank_withReturns]
    refine corresponds_step (quoteMark_withReturns _)
      (fun rest h => (quoteMark_suffix h).trans (skipBlank_suffix h₂)) fun cs₃ h₃ => ?_
    have hname := takeWhile_withReturns (p := isWord) (by decide) (by decide) cs₃
    have hbehind := dropWhile_withReturns (p := isWord) (by decide) cs₃
    simp only
    rw [hname, hbehind]
    refine corresponds_step (quoteMark_withReturns _)
      (fun rest h => (quoteMark_suffix h).trans ((List.dropWhile_suffix _).trans h₃))
      fun cs₄ h₄ => ?_
    refine corresponds_skipBlank_expect (by decide) h₄ fun cs₅ h₅ => ?_
    rw [skipBlank_withReturns]
    refine corresponds_bind (upTo_withReturns (by decide) (List.cons_ne_nil _ _) _)
      (fun value rest h => (upTo_suffix h).trans (skipBlank_suffix h₅)) fun value cs₆ h₆ => ?_
    simp only
    rw [pathComment_eq, pathComment_eq, commentText_withReturns]
    cases hcomment : commentText cs₆ with
    | none => exact .some h₆ (.same cs₆)
    | some text =>
        have hpath := endsAlike_line text
        show Corresponds cs (some (Setter.mk _ _ (nonBlank? _), _))
          (some (Setter.mk _ _ (nonBlank? _), _))
        rw [nonBlank?, nonBlank?, hpath.trim_eq]
        exact .some ((List.dropWhile_suffix _).trans ((commentText_suffix hcomment).trans h₆))
          hpath.left

/-! ## Members of the parsed response -/

theorem memberAccess?_name {value name path : List Char}
    (h : memberAccess? value = some (name, path)) : name ≠ [] ∧ ∀ c ∈ name, Inline c := by
  rw [memberAccess?] at h
  obtain ⟨start, hstart, h⟩ := Option.bind_eq_some_iff.mp h
  split at h
  · cases h
  · next hletter =>
      obtain ⟨rest, hdot, h⟩ := Option.bind_eq_some_iff.mp h
      simp only at h
      split at h
      · cases h
      · cases h
        constructor
        · -- Without a name the dot would have to be the character that starts the name.
          intro hnil
          rw [← List.takeWhile_append_dropWhile (p := inName) (l := skipBlank value), hnil,
            List.nil_append, expect_eq_some_iff.mp hdot] at hstart
          cases hstart
          exact hletter (by decide)
        · intro c hc
          have hin : inName c = true := List.mem_takeWhile_imp hc
          constructor <;> rintro rfl <;> exact absurd hin (by decide)

theorem lineBlind_parsedInto {name : List Char} (hne : name ≠ []) (hname : ∀ c ∈ name, Inline c) :
    LineBlind (parsedInto name) where
  atLineEnd previous c cs hc := by
    cases name with
    | nil => exact absurd rfl hne
    | cons d name =>
        have hd : c ≠ d := by
          rintro rfl
          exact hc (hname c List.mem_cons_self)
        rw [parsedInto, expect_cons_of_ne hd]
        rfl
  corresponds previous c cs _ _ := by
    cases name with
    | nil => exact absurd rfl hne
    | cons d name =>
        rw [parsedInto, parsedInto]
        refine corresponds_expect_cons (fun c hc => hname c (List.mem_cons_of_mem d hc))
          fun cs₁ h₁ => ?_
        split
        · exact .none
        · refine corresponds_skipBlank_expect (by decide) h₁ fun cs₂ h₂ => ?_
          refine corresponds_skipBlank_expect (by decide) h₂ fun cs₃ h₃ => ?_
          refine corresponds_skipBlank_expect (by decide) h₃ fun cs₄ h₄ => ?_
          refine corresponds_skipBlank_expect (by decide) h₄ fun cs₅ h₅ => ?_
          exact .some h₅ (.same cs₅)

end LoadScenario.Script
