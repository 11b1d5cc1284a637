import LoadScenario.Proofs.QuotedText
import LoadScenario.Proofs.TextSearch
import LoadScenario.Script.Setter
import Mathlib.Data.List.Induction

/-!
# Lines that end with a carriage return

The same script or header block can come with two kinds of line ends, and whoever reads it should
not see the difference. A carriage return is white space, so wherever white space is skipped or
trimmed nothing is to be shown. In all other places a reader stops at the newline or gives up, and
a carriage return in front of it can do no more than come in at the end of what was read.

So a reader answers the same and leaves the same, with two exceptions: an expression and a comment
run to the end of a line and take the carriage return along, and what is left then begins between
the two characters of the line end (`EndsAlike`). Nothing is recognised at either of them, which is
why a search finds the same matches in the same places (`matchesFrom_withReturns`).
-/

namespace LoadScenario.Text

/-- A text with a carriage return in front of each newline. -/
def withReturns (cs : List Char) : List Char :=
  cs.flatMap fun c => if c = '\n' then ['\r', '\n'] else [c]

theorem withReturns_newline (cs : List Char) :
    withReturns ('\n' :: cs) = '\r' :: '\n' :: withReturns cs := rfl

theorem withReturns_cons {c : Char} (hc : c ≠ '\n') (cs : List Char) :
    withReturns (c :: cs) = c :: withReturns cs := by
  rw [withReturns, List.flatMap_cons, if_neg hc]
  rfl

theorem withReturns_append (cs cs' : List Char) :
    withReturns (cs ++ cs') = withReturns cs ++ withReturns cs' :=
  List.flatMap_append

theorem withReturns_of_not_mem {cs : List Char} (h : '\n' ∉ cs) : withReturns cs = cs := by
  induction cs with
  | nil => rfl
  | cons c cs ih =>
      rw [List.mem_cons, not_or] at h
      rw [withReturns_cons (Ne.symm h.1), ih h.2]

theorem getLast?_withReturns (cs : List Char) : (withReturns cs).getLast? = cs.getLast? := by
  induction cs using List.reverseRecOn with
  | nil => rfl
  | append_singleton cs c _ =>
      rw [withReturns_append, List.getLast?_append, List.getLast?_append]
      by_cases hc : c = '\n'
      · rw [hc]; rfl
      · rw [withReturns_of_not_mem (by simpa using Ne.symm hc)]
        rfl

/-! ## Readers that do not see the difference -/

def Inline (c : Char) : Prop := c ≠ '\n' ∧ c ≠ '\r'

instance : DecidablePred Inline := fun c => inferInstanceAs (Decidable (c ≠ '\n' ∧ c ≠ '\r'))

theorem dropWhile_withReturns {p : Char → Bool} (hp : p '\r' = p '\n') (cs : List Char) :
    (withReturns cs).dropWhile p = withReturns (cs.dropWhile p) := by
  induction cs with
  | nil => rfl
  | cons c cs ih =>
      by_cases hc : c = '\n'
      · subst hc
        rw [withReturns_newline]
        cases hn : p '\n' with
        | true => simp only [List.dropWhile_cons, hp, hn, if_true, ih]
        | false => simp only [List.dropWhile_cons, hp, hn, Bool.false_eq_true, if_false,
            withReturns_newline]
      · rw [withReturns_cons hc, List.dropWhile_cons, List.dropWhile_cons, ih]
        split
        · rfl
        · rw [withReturns_cons hc]

theorem takeWhile_withReturns {p : Char → Bool} (hreturn : p '\r' = false)
    (hnewline : p '\n' = false) (cs : List Char) :
    (withReturns cs).takeWhile p = cs.takeWhile p := by
  induction cs with
  | nil => rfl
  | cons c cs ih =>
      by_cases hc : c = '\n'
      · rw [hc, withReturns_newline]
        simp only [List.takeWhile_cons, hreturn, hnewline, Bool.false_eq_true, if_false]
      · rw [withReturns_cons hc, List.takeWhile_cons, List.takeWhile_cons, ih]

theorem skipBlank_withReturns (cs : List Char) :
    skipBlank (withReturns cs) = withReturns (skipBlank cs) :=
  dropWhile_withReturns (by decide) cs

theorem expect_withReturns {w : List Char} (hw : ∀ c ∈ w, Inline c) (cs : List Char) :
    expect w (withReturns cs) = (expect w cs).map withReturns := by
  induction w generalizing cs with
  | nil => simp only [expect, Option.map_some]
  | cons d w ih =>
      obtain ⟨hnewline, hreturn⟩ := hw d List.mem_cons_self
      cases cs with
      | nil => rfl
      | cons c cs =>
          by_cases hc : c = '\n'
          · rw [hc, withReturns_newline, expect, expect, if_neg (Ne.symm hreturn),
              if_neg (Ne.symm hnewline)]
            rfl
          · rw [withReturns_cons hc, expect, expect]
            split
            · exact ih (fun c hc => hw c (List.mem_cons_of_mem d hc)) cs
            · rfl

/-- What has been read up to a character of the line stood there before, too. -/
theorem append_cons_of_withReturns {front back cs : List Char} {c : Char} (hc : Inline c)
    (hfront : '\n' ∉ front) (h : withReturns cs = front ++ c :: back) :
    ∃ rest, cs = front ++ c :: rest := by
  induction front generalizing cs with
  | nil =>
      cases cs with
      | nil => cases h
      | cons d cs =>
          by_cases hd : d = '\n'
          · rw [hd, withReturns_newline] at h
            exact absurd (List.head_eq_of_cons_eq h).symm hc.2
          · rw [withReturns_cons hd] at h
            exact ⟨cs, by rw [← List.head_eq_of_cons_eq h]; rfl⟩
  | cons f front ih =>
      rw [List.mem_cons, not_or] at hfront
      cases cs with
      | nil => cases h
      | cons d cs =>
          by_cases hd : d = '\n'
          · -- Behind the carriage return there would have to be its newline.
            rw [hd, withReturns_newline] at h
            have htail := List.tail_eq_of_cons_eq h
            cases front with
            | nil => exact absurd (List.head_eq_of_cons_eq htail).symm hc.1
            | cons f' front =>
                exact absurd (List.head_eq_of_cons_eq htail)
                  (fun heq => hfront.2 (by rw [heq]; exact List.mem_cons_self))
          · rw [withReturns_cons hd] at h
            obtain ⟨rest, rfl⟩ := ih hfront.2 (List.tail_eq_of_cons_eq h)
            exact ⟨rest, by rw [← List.head_eq_of_cons_eq h]; rfl⟩

theorem upTo_withReturns {w : List Char} (hw : ∀ c ∈ w, Inline c) (hne : w ≠ []) (cs : List Char) :
    upTo w (withReturns cs) =
      (upTo w cs).map fun (inner, rest) => (inner, withReturns rest) := by
  have hline : ∀ c cs, ¬ Inline c → expect w (c :: cs) = none := by
    intro c cs hc
    cases w with
    | nil => exact absurd rfl hne
    | cons d w =>
        rw [expect, if_neg]
        rintro rfl
        exact hc (hw c List.mem_cons_self)
  induction cs with
  | nil => rfl
  | cons c cs ih =>
      by_cases hc : c = '\n'
      · have hreturn := hline '\r' ('\n' :: withReturns cs) (fun h => h.2 rfl)
        have hnewline := fun cs => hline '\n' cs (fun h => h.1 rfl)
        rw [hc, withReturns_newline, upTo, upTo, hreturn, hnewline, upTo, hnewline]
        rfl
      · rw [withReturns_cons hc, upTo, upTo, ← withReturns_cons hc, expect_withReturns hw]
        cases hclose : expect w (c :: cs) with
        | some rest => rfl
        | none =>
            simp only [Option.map_none, if_neg hc, ih]
            cases upTo w cs <;> rfl

theorem trim_concat_return (cs : List Char) : trim (cs ++ ['\r']) = trim cs := by
  have hblank : isBlank '\r' = true := by decide
  have hend : ∀ cs, trimEnd (cs ++ ['\r']) = trimEnd cs := by
    intro cs
    rw [trimEnd, List.reverse_append, List.reverse_singleton, List.singleton_append,
      List.dropWhile_cons, if_pos hblank]
    rfl
  rw [trim, trim, skipBlank, skipBlank, List.dropWhile_append]
  split
  next hall =>
    rw [List.isEmpty_iff.mp hall, List.dropWhile_cons, if_pos hblank]
    rfl
  next => exact hend _

/-! ## Readers that run to the end of a line -/

/-- What is left of a text, and of the text with carriage returns: the same, or the carriage return
of the line end that comes next has been taken. -/
inductive Left : List Char → List Char → Prop
  | same (rest : List Char) : Left rest (withReturns rest)
  | between (rest : List Char) : Left ('\n' :: rest) ('\n' :: withReturns rest)

/-- What a reader takes and leaves of a text, and of the text with carriage returns. -/
inductive EndsAlike : List Char × List Char → List Char × List Char → Prop
  | same (taken rest : List Char) : EndsAlike (taken, rest) (taken, withReturns rest)
  | between (taken rest : List Char) :
      EndsAlike (taken, '\n' :: rest) (taken ++ ['\r'], '\n' :: withReturns rest)

namespace EndsAlike

variable {read read' : List Char × List Char}

theorem left (h : EndsAlike read read') : Left read.2 read'.2 := by
  cases h with
  | same taken rest => exact .same rest
  | between taken rest => exact .between rest

theorem trim_eq (h : EndsAlike read read') : trim read'.1 = trim read.1 := by
  cases h with
  | same taken rest => rfl
  | between taken rest => exact trim_concat_return taken

theorem prepend (h : EndsAlike read read') (front : List Char) :
    EndsAlike (front ++ read.1, read.2) (front ++ read'.1, read'.2) := by
  cases h with
  | same taken rest => exact .same _ _
  | between taken rest =>
      rw [← List.append_assoc]
      exact .between _ _

end EndsAlike

theorem endsAlike_line (cs : List Char) :
    EndsAlike (cs.takeWhile (· ≠ '\n'), cs.dropWhile (· ≠ '\n'))
      ((withReturns cs).takeWhile (· ≠ '\n'), (withReturns cs).dropWhile (· ≠ '\n')) := by
  induction cs with
  | nil => exact .same [] []
  | cons c cs ih =>
      by_cases hc : c = '\n'
      · rw [hc]
        exact .between [] cs
      · have hstay : (decide (c ≠ '\n')) = true := decide_eq_true hc
        rw [withReturns_cons hc]
        simp only [List.takeWhile_cons, List.dropWhile_cons, hstay, if_true]
        exact ih.prepend [c]

/-! ## Searching -/

/-- Where a search is in a text, and where it is in the text with carriage returns: what is before
the place, the character there and what is behind it. -/
inductive InStep : List Char → Option Char → List Char → List Char → Option Char → List Char → Prop
  | same (before : List Char) (previous : Option Char) (cs : List Char) :
      InStep before previous cs (withReturns before) previous (withReturns cs)
  | between (before : List Char) (previous previous' : Option Char) (cs : List Char) :
      InStep before previous ('\n' :: cs) (withReturns before ++ ['\r']) previous'
        ('\n' :: withReturns cs)

/-- A match that leaves the same keeps the searches in step. -/
theorem Left.inStep {rest rest' : List Char} (h : Left rest rest') (before : List Char)
    {source : List Char} (hsource : source ≠ []) :
    ∃ source', source' ≠ [] ∧ withReturns (source ++ rest) = source' ++ rest' ∧
      InStep (before ++ source) source.getLast? rest
        (withReturns before ++ source') source'.getLast? rest' := by
  cases h with
  | same rest =>
      refine ⟨withReturns source, ?_, withReturns_append source rest, ?_⟩
      · intro hnil
        have hlast := getLast?_withReturns source
        rw [hnil] at hlast
        exact hsource (List.getLast?_eq_none_iff.mp hlast.symm)
      · rw [getLast?_withReturns, ← withReturns_append]
        exact .same _ _ _
  | between rest =>
      refine ⟨withReturns source ++ ['\r'], by simp, ?_, ?_⟩
      · rw [withReturns_append, withReturns_newline, List.append_assoc]
        rfl
      · rw [← List.append_assoc, ← withReturns_append]
        exact .between _ _ _ _

/-- What a recogniser makes of a place in a text, and of the place in the text with carriage returns
that corresponds to it. What is left lies within a limit. -/
inductive Corresponds {α : Type} (limit : List Char) :
    Option (α × List Char) → Option (α × List Char) → Prop
  | none : Corresponds limit none none
  | some {a : α} {rest rest' : List Char} : rest <:+ limit → Left rest rest' →
      Corresponds limit (some (a, rest)) (some (a, rest'))

/-- A recogniser that recognises nothing at a line end and does not see whether it has a carriage
return. -/
structure LineBlind {α : Type} (recognize : Recognizer α) : Prop where
  atLineEnd : ∀ previous c cs, ¬ Inline c → recognize previous (c :: cs) = none
  corresponds : ∀ previous c cs, c ≠ '\n' → '\x60' ∉ c :: cs →
    Corresponds cs (recognize previous (c :: cs)) (recognize previous (c :: withReturns cs))

section

variable {α : Type} {recognize : Recognizer α}

theorem LineBlind.piecesFrom_lineEnd (h : LineBlind recognize) {c : Char} (hc : ¬ Inline c)
    (previous : Option Char) (cs : List Char) : piecesFrom recognize 0 previous (c :: cs) =
      .plain c :: piecesFrom recognize 0 (some c) cs :=
  piecesFrom_plain (h.atLineEnd previous c cs hc)

/-- Searches that are in step find the same. -/
theorem LineBlind.matchesFrom_eq (h : LineBlind recognize) {before cs before' cs' : List Char}
    {previous previous' : Option Char} (hstep : InStep before previous cs before' previous' cs')
    (hcs : '\x60' ∉ cs) :
    matchesFrom before' (piecesFrom recognize 0 previous' cs') =
      (matchesFrom before (piecesFrom recognize 0 previous cs)).map
        fun (b, a) => (withReturns b, a) := by
  have hnewline : ¬ Inline '\n' := fun hn => hn.1 rfl
  have hreturn : ¬ Inline '\r' := fun hr => hr.2 rfl
  induction hlength : cs'.length using Nat.strongRecOn
    generalizing before cs before' cs' previous previous' with
  | ind n ih =>
      subst hlength
      cases hstep with
      | between before cs =>
          have hnext := ih _ (Nat.lt_succ_self _) (.same (before ++ ['\n']) (some '\n') cs)
            (fun hmem => hcs (List.mem_cons_of_mem _ hmem)) rfl
          rw [h.piecesFrom_lineEnd hnewline, h.piecesFrom_lineEnd hnewline, matchesFrom_plain,
            matchesFrom_plain, ← hnext, withReturns_append, List.append_assoc]
          rfl
      | same =>
          match cs with
          | [] => rfl
          | c :: cs =>
              by_cases hc : c = '\n'
              · subst hc
                rw [withReturns_newline, h.piecesFrom_lineEnd hreturn, matchesFrom_plain]
                exact ih _ (Nat.lt_succ_self _) (.between before previous (some '\r') cs) hcs rfl
              · have hhere := h.corresponds previous c cs hc hcs
                rw [withReturns_cons hc] at ih ⊢
                generalize hr : recognize previous (c :: cs) = found at hhere
                generalize hr' : recognize previous (c :: withReturns cs) = found' at hhere
                cases hhere with
                | none =>
                    have hnext := ih _ (Nat.lt_succ_self _) (.same (before ++ [c]) (some c) cs)
                      (fun hmem => hcs (List.mem_cons_of_mem _ hmem)) rfl
                    rw [piecesFrom_plain hr, piecesFrom_plain hr', matchesFrom_plain,
                      matchesFrom_plain, ← hnext, withReturns_append,
                      withReturns_of_not_mem (show '\n' ∉ [c] by simpa using Ne.symm hc)]
                | some hsuffix hleft =>
                    rename_i a rest rest'
                    obtain ⟨source, rfl⟩ := hsuffix
                    obtain ⟨source', hsource', htext, hnext⟩ :=
                      hleft.inStep before (List.cons_ne_nil c source)
                    rw [← withReturns_cons hc, ← List.cons_append, htext] at hr' ih ⊢
                    rw [← List.cons_append] at hr
                    rw [piecesFrom_found (List.cons_ne_nil c source) hr,
                      piecesFrom_found hsource' hr', matchesFrom_found, matchesFrom_found,
                      List.map_cons]
                    refine congrArg _ (ih _ ?_ hnext ?_ rfl)
                    · rw [List.length_append]
                      have := List.length_pos_of_ne_nil hsource'
                      omega
                    · exact fun hmem =>
                        hcs (List.mem_cons_of_mem _ (List.mem_append_right source hmem))

theorem LineBlind.matchesFrom_withReturns (h : LineBlind recognize) {cs : List Char}
    (hcs : '\x60' ∉ cs) : matchesFrom [] (pieces recognize (withReturns cs)) =
      (matchesFrom [] (pieces recognize cs)).map fun (b, a) => (withReturns b, a) :=
  h.matchesFrom_eq (.same [] none cs) hcs

theorem LineBlind.findAll_withReturns (h : LineBlind recognize) {cs : List Char}
    (hcs : '\x60' ∉ cs) : findAll recognize (withReturns cs) = findAll recognize cs := by
  rw [findAll, findAll, filterMap_value?_eq [], filterMap_value?_eq [],
    h.matchesFrom_withReturns hcs, List.map_map]
  rfl

theorem LineBlind.occursIn_withReturns (h : LineBlind recognize) {cs : List Char}
    (hcs : '\x60' ∉ cs) : occursIn recognize (withReturns cs) = occursIn recognize cs := by
  have hfind : ∀ cs, find? recognize cs = (findAll recognize cs).head? := by
    intro cs
    rw [find?, ← findSome?_value?_piecesFrom, findAll, List.head?_filterMap, pieces]
  rw [occursIn, occursIn, hfind, hfind, h.findAll_withReturns hcs]

end

end LoadScenario.Text
