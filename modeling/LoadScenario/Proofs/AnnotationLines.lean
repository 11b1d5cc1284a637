import LoadScenario.Proofs.MatchPlaces
import LoadScenario.Proofs.ScriptLineEnds
import LoadScenario.Proofs.SetterCalls

/-!
# The line of a comment

A comment that names the place of a value belongs to the call on its line. The search does not ask
for that: what may stand between a call and its comment is white space, and the end of a line is
white space. So a call without a comment takes the comment on the next line that is not blank, if
there is nothing else before it.

Here a match is taken apart into the call, which ends at its first closing parenthesis, and the
comment behind it. What stands between the two is white space, a semicolon and the two slashes, so
the rest of the line of the call shows whether the comment is on it: just then it has the mark that
such comments bear (`comment_onLine_iff`).
-/

namespace LoadScenario.Script

open Text

/-! ## The comment behind a call -/

/-- A comment that names a place, with what stands before it. -/
structure Comment where
  beforeSemicolon : List Char
  semicolon : Bool
  beforeSlashes : List Char
  beforeMark : List Char
  /-- What stands behind the mark, up to the end of the line. -/
  path : List Char

def pathMark : List Char := "JSONPath=".toList

namespace Comment

/-- What stands between the call and the mark. -/
def between (c : Comment) : List Char :=
  c.beforeSemicolon ++ ((if c.semicolon then [';'] else []) ++
    (c.beforeSlashes ++ ('/' :: '/' :: c.beforeMark)))

def text (c : Comment) : List Char := c.between ++ (pathMark ++ c.path)

theorem text_append (c : Comment) (rest : List Char) : c.text ++ rest =
    c.beforeSemicolon ++ ((if c.semicolon then [';'] else []) ++ (c.beforeSlashes ++
      '/' :: '/' :: (c.beforeMark ++ (pathMark ++ (c.path ++ rest))))) := by
  show (_ ++ (_ ++ (_ ++ '/' :: '/' :: _)) ++ (pathMark ++ _)) ++ rest = _
  simp only [List.append_assoc, List.cons_append]

structure Readable (c : Comment) : Prop where
  beforeSemicolon : ∀ d ∈ c.beforeSemicolon, isBlank d
  beforeSlashes : ∀ d ∈ c.beforeSlashes, isBlank d
  beforeMark : ∀ d ∈ c.beforeMark, isBlank d
  path : '\n' ∉ c.path

/-- Whether the comment is on the line on which the call before it ends. -/
def OnLine (c : Comment) : Prop := '\n' ∉ c.between

theorem Readable.mark_not_mem {c : Comment} (h : c.Readable) : 'J' ∉ c.between := by
  have hgap : ∀ {gap : List Char}, (∀ d ∈ gap, isBlank d) → 'J' ∉ gap :=
    fun hgap hmem => absurd (hgap 'J' hmem) (by decide)
  have hsemicolon : 'J' ∉ (if c.semicolon then [';'] else []) := by
    cases c.semicolon <;> decide
  simp only [between, List.mem_append, List.mem_cons, not_or]
  exact ⟨hgap h.beforeSemicolon, hsemicolon, hgap h.beforeSlashes, by decide, by decide,
    hgap h.beforeMark⟩

/-- The comment is on the line of the call if the mark is. -/
theorem Readable.onLine_iff {c : Comment} (h : c.Readable) (rest : List Char) :
    c.OnLine ↔ pathMark <:+: (c.text ++ rest).takeWhile (· ≠ '\n') := by
  have htext : c.text ++ rest = c.between ++ (pathMark ++ (c.path ++ rest)) := by
    rw [text, List.append_assoc, List.append_assoc]
  rw [htext]
  constructor
  · intro hline
    have hbetween : ∀ d ∈ c.between, decide (d ≠ '\n') = true :=
      fun d hd => decide_eq_true fun heq => hline (heq ▸ hd)
    have hmark : ∀ d ∈ pathMark, decide (d ≠ '\n') = true := by decide
    rw [List.takeWhile_append_of_pos hbetween, List.takeWhile_append_of_pos hmark]
    exact ⟨c.between, _, List.append_assoc _ _ _⟩
  · -- In front of the end of the line there is no letter that the mark could begin with.
    intro hmark hline
    obtain ⟨front, back, hsplit, hfront⟩ := List.eq_append_cons_of_mem hline
    have htake : (c.between ++ (pathMark ++ (c.path ++ rest))).takeWhile (· ≠ '\n') = front := by
      have hpos : ∀ d ∈ front, decide (d ≠ '\n') = true :=
        fun d hd => decide_eq_true fun heq => hfront (heq ▸ hd)
      rw [hsplit, List.append_assoc, List.takeWhile_append_of_pos hpos, List.cons_append,
        List.takeWhile_cons_of_neg (by decide), List.append_nil]
    rw [htake] at hmark
    have hletter : 'J' ∈ front := hmark.subset (by decide)
    refine h.mark_not_mem ?_
    rw [hsplit]
    exact List.mem_append_left _ hletter

end Comment

theorem exists_comment {cs path rest : List Char} (h : pathComment cs = some (path, rest)) :
    ∃ c : Comment, c.Readable ∧ c.path = path ∧ cs = c.text ++ rest := by
  rw [pathComment_eq] at h
  obtain ⟨behind, hcomment, heq⟩ := Option.map_eq_some_iff.mp h
  obtain ⟨rfl, rfl⟩ := Prod.mk.inj heq
  obtain ⟨cs₁, hslashes, hmark⟩ := Option.bind_eq_some_iff.mp hcomment
  obtain ⟨gap₁, hgap₁, hcs, -⟩ := exists_gap cs
  obtain ⟨semicolon, gap₂, hgap₂, hskipped⟩ : ∃ (semicolon : Bool) (gap₂ : List Char),
      (∀ d ∈ gap₂, isBlank d) ∧
        skipBlank cs = (if semicolon then [';'] else []) ++ (gap₂ ++ '/' :: '/' :: cs₁) := by
    obtain ⟨gap₂, hgap₂, hbehind, -⟩ :=
      exists_gap ((expect [';'] (skipBlank cs)).getD (skipBlank cs))
    rw [expect_eq_some_iff.mp hslashes] at hbehind
    cases hexpect : expect [';'] (skipBlank cs) with
    | none =>
        rw [hexpect] at hbehind
        exact ⟨false, gap₂, hgap₂, hbehind⟩
    | some rest =>
        rw [hexpect] at hbehind
        refine ⟨true, gap₂, hgap₂, ?_⟩
        rw [expect_eq_some_iff.mp hexpect]
        exact congrArg _ hbehind
  obtain ⟨gap₃, hgap₃, hcs₁, -⟩ := exists_gap cs₁
  refine ⟨⟨gap₁, semicolon, gap₂, gap₃, _⟩, ⟨hgap₁, hgap₂, hgap₃, ?_⟩, rfl, ?_⟩
  · exact fun hmem => absurd (List.mem_takeWhile_imp hmem) (by decide)
  · rw [expect_eq_some_iff.mp hmark] at hcs₁
    rw [Comment.text_append, List.takeWhile_append_dropWhile]
    calc cs = gap₁ ++ skipBlank cs := hcs
      _ = gap₁ ++ ((if semicolon then [';'] else []) ++ (gap₂ ++ '/' :: '/' :: cs₁)) := by
          rw [hskipped]
      _ = _ := by rw [hcs₁]; rfl

/-! ## The call before it -/

/-- What a call keeps to that ends at its first closing parenthesis. -/
structure SetterCall.Closed (call : SetterCall) : Prop where
  name : ∀ c ∈ call.name.toList, isWord c
  value : ∀ c ∈ skipBlank call.value, c ≠ ')' ∧ c ≠ '\n'
  beforeBracket : ∀ c ∈ call.beforeBracket, isBlank c
  beforeName : ∀ c ∈ call.beforeName, isBlank c
  beforeComma : ∀ c ∈ call.beforeComma, isBlank c

/-- What is recognised is a call that ends at its first closing parenthesis, and either the comment
behind it is recognised, too, or no place is found. -/
theorem exists_call {previous : Option Char} {cs rest : List Char} {s : Setter}
    (h : setter previous cs = some (s, rest)) : ∃ (call : SetterCall) (behind : List Char),
      call.Closed ∧ cs = call.text ++ behind ∧ s = call.setter s.jsonPath ∧
        ((∃ c : Comment, c.Readable ∧ behind = c.text ++ rest ∧ s.jsonPath = nonBlank? c.path) ∨
          (behind = rest ∧ s.jsonPath = none)) := by
  obtain ⟨cs₁, hcall, h⟩ := Option.bind_eq_some_iff.mp h
  obtain ⟨cs₂, hbracket, h⟩ := Option.bind_eq_some_iff.mp h
  obtain ⟨cs₃, hopening, h⟩ := Option.bind_eq_some_iff.mp h
  obtain ⟨cs₄, hclosing, h⟩ := Option.bind_eq_some_iff.mp h
  obtain ⟨cs₅, hcomma, h⟩ := Option.bind_eq_some_iff.mp h
  obtain ⟨⟨inner, behind⟩, hvalue, hfound⟩ := Option.bind_eq_some_iff.mp h
  obtain ⟨onPostman, f, rfl⟩ := exists_function hcall
  obtain ⟨gap₁, hgap₁, rfl⟩ := exists_gap_of_expect hbracket
  obtain ⟨gap₂, hgap₂, hcs₂, -⟩ := exists_gap cs₂
  obtain ⟨opening, hname⟩ := exists_quote hopening
  obtain ⟨closing, hbehindName⟩ := exists_quote hclosing
  obtain ⟨gap₃, hgap₃, rfl⟩ := exists_gap_of_expect hcomma
  obtain ⟨gap₄, hgap₄, hcs₅, -⟩ := exists_gap cs₅
  obtain ⟨hinner, hplain⟩ := eq_of_upTo hvalue
  have hskip : skipBlank (gap₄ ++ inner) = inner := by
    have hskipped := skipBlank_append_cons (c := ')') (by decide) (gap₄ ++ inner) behind
    rw [List.append_assoc, ← hinner, ← hcs₅, hinner] at hskipped
    exact (List.append_cancel_right hskipped).symm
  have hcs₃ : cs₃ = cs₃.takeWhile isWord ++ closing.char :: (gap₃ ++ ',' :: cs₅) := by
    rw [← hbehindName, List.takeWhile_append_dropWhile]
  refine ⟨⟨onPostman, f, gap₁, gap₂, opening, String.ofList (cs₃.takeWhile isWord), closing, gap₃,
    gap₄ ++ inner⟩, behind, ⟨?_, ?_, hgap₁, hgap₂, hgap₃⟩, ?_, ?_⟩
  · rw [String.toList_ofList]
    exact fun c hc => List.mem_takeWhile_imp hc
  · rw [hskip]
    exact hplain
  · have hfront : gap₁ ++ '(' :: cs₂ = gap₁ ++ '(' :: (gap₂ ++ opening.char ::
        (cs₃.takeWhile isWord ++ closing.char :: (gap₃ ++ ',' :: (gap₄ ++ (inner ++
          ')' :: behind))))) := by
      rw [← hinner, ← hcs₅, ← hcs₃, ← hname, ← hcs₂]
    rw [hfront, SetterCall.text_append, SetterCall.front_append]
    simp only [String.toList_ofList, List.append_assoc]
    rfl
  · have htrim : trim inner = trim (gap₄ ++ inner) := by
      rw [← trim_skipBlank (gap₄ ++ inner), hskip]
    simp only [htrim] at hfound
    cases hcomment : pathComment behind with
    | some result =>
        obtain ⟨path, rest'⟩ := result
        rw [hcomment] at hfound
        cases hfound
        obtain ⟨c, hc, rfl, hbehind⟩ := exists_comment hcomment
        exact ⟨rfl, .inl ⟨c, hc, hbehind, rfl⟩⟩
    | none =>
        rw [hcomment] at hfound
        cases hfound
        exact ⟨rfl, .inr ⟨rfl, rfl⟩⟩

theorem consumes_setter : Consumes setter := by
  intro previous cs s rest h
  obtain ⟨call, behind, -, rfl, -, hcomment⟩ := exists_call h
  rcases hcomment with ⟨c, -, rfl, -⟩ | ⟨rfl, -⟩
  · exact ⟨call.text ++ c.text, List.append_ne_nil_of_left_ne_nil call.text_ne_nil _,
      (List.append_assoc _ _ _).symm⟩
  · exact ⟨call.text, call.text_ne_nil, rfl⟩

theorem eq_of_nonBlank? {cs : List Char} {text : String} (h : nonBlank? cs = some text) :
    text = String.ofList (trim cs) := by
  rw [nonBlank?] at h
  split at h
  · cases h
  · exact (Option.some.inj h).symm

/-! ## The calls of a script -/

theorem exists_call_of_mem_setters {script : String} {offset : Nat} {s : Setter}
    (h : (offset, s) ∈ setters script) :
    ∃ (before : List Char) (call : SetterCall) (behind rest : List Char),
      byteLength before = offset ∧ script.toList = before ++ (call.text ++ behind) ∧
      call.Closed ∧ s = call.setter s.jsonPath ∧
      ((∃ c : Comment, c.Readable ∧ behind = c.text ++ rest ∧ s.jsonPath = nonBlank? c.path) ∨
        (behind = rest ∧ s.jsonPath = none)) := by
  rw [setters, locate_pieces] at h
  obtain ⟨o, ho, heq⟩ := List.mem_map.mp h
  obtain ⟨rfl, rfl⟩ := Prod.mk.inj heq
  obtain ⟨-, after, htext, hfound⟩ := recognized_of_mem_occurrences consumes_setter ho
  obtain ⟨call, behind, hcall, hsource, hvalue, hcomment⟩ := exists_call hfound
  rw [hsource] at htext
  exact ⟨o.before, call, behind, after, rfl, htext, hcall, hvalue, hcomment⟩

/-- A place that is found for a call comes from the comment behind it, and this is on the line on
which the call ends just if the rest of that line has the mark of such a comment. -/
theorem comment_onLine_iff {script : String} {offset : Nat} {s : Setter}
    (h : (offset, s) ∈ setters script) :
    ∃ (before : List Char) (call : SetterCall) (behind : List Char),
      byteLength before = offset ∧ script.toList = before ++ (call.text ++ behind) ∧
      call.Closed ∧ s = call.setter s.jsonPath ∧
      ∀ path, s.jsonPath = some path → ∃ (c : Comment) (rest : List Char),
        c.Readable ∧ behind = c.text ++ rest ∧ path = String.ofList (trim c.path) ∧
          (c.OnLine ↔ pathMark <:+: behind.takeWhile (· ≠ '\n')) := by
  obtain ⟨before, call, behind, after, hoffset, htext, hcall, hvalue, hcomment⟩ :=
    exists_call_of_mem_setters h
  refine ⟨before, call, behind, hoffset, htext, hcall, hvalue, fun path hpath => ?_⟩
  rcases hcomment with ⟨c, hc, rfl, hjsonPath⟩ | ⟨-, hnone⟩
  · rw [hpath] at hjsonPath
    exact ⟨c, after, hc, rfl, eq_of_nonBlank? hjsonPath.symm, hc.onLine_iff after⟩
  · rw [hpath] at hnone
    cases hnone

def annotatedLine : String :=
  "postman.setEnvironmentVariable(\"user\", data.user); // JSONPath=user.id"

theorem comment_onLine_annotated :
    (0, ⟨"user", "data.user", some "user.id"⟩) ∈ setters annotatedLine ∧
      ∃ (before : List Char) (call : SetterCall) (c : Comment) (rest : List Char),
        annotatedLine.toList = before ++ (call.text ++ (c.text ++ rest)) ∧ c.OnLine := by
  have hfound : (0, ⟨"user", "data.user", some "user.id"⟩) ∈ setters annotatedLine := by decide
  obtain ⟨before, call, behind, -, htext, -, -, hcomment⟩ := comment_onLine_iff hfound
  obtain ⟨c, rest, -, rfl, -, hline⟩ := hcomment "user.id" rfl
  refine ⟨hfound, before, call, c, rest, htext, hline.mpr ?_⟩
  have hkept : (c.text ++ rest).takeWhile (· ≠ '\n') = c.text ++ rest := by
    have hone : ∀ d ∈ annotatedLine.toList, d ≠ '\n' := by decide
    rw [List.takeWhile_eq_self_iff]
    intro d hd
    refine decide_eq_true (hone d ?_)
    rw [htext]
    exact List.mem_append_right _ (List.mem_append_right _ hd)
  rw [hkept]
  exact ⟨c.between, c.path ++ rest, by simp only [Comment.text, List.append_assoc]⟩

/-- A script with a comment on a line of its own. -/
def strayComment : String :=
  "postman.setEnvironmentVariable(\"token\", data.token);\n//JSONPath=user.id"

/-- The call takes the comment, although no line has both. -/
theorem stray_comment_taken :
    setters strayComment = [(0, ⟨"token", "data.token", some "user.id"⟩)] ∧
      ∀ line ∈ lines strayComment.toList, ')' ∈ line → ¬ pathMark <:+: line := by
  have hletter : ∀ line ∈ lines strayComment.toList, ')' ∈ line → 'J' ∉ line := by decide
  refine ⟨by decide, fun line hline hclosing hmark => ?_⟩
  exact hletter line hline hclosing (hmark.subset (by decide))

end LoadScenario.Script
