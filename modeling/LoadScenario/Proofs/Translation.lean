import LoadScenario.Proofs.MarkedText
import LoadScenario.Proofs.TextSearch
import LoadScenario.Request.Analysis

/-!
# What the translation of placeholders changes

Two things are relied on wherever a text is translated, and neither can be read off the search for
marks, which goes over the whole text. One line has no effect on another, whatever braces stand in
it: a mark never runs over the end of a line, and a name that has been begun there is given up, just
as at the end of the text. And the text around the placeholders is kept: single braces may stand in
it, before a placeholder, behind it and in between, as long as the text has no opening mark and does
not end with half of one.

What has been translated has no opening mark left, so that nothing is changed by a second pass.
-/

namespace LoadScenario

open Text

/-! ## Line by line -/

namespace Text

theorem expect_newline {mark : List Char} (hne : mark ≠ []) (hmark : '\n' ∉ mark)
    (rest : List Char) : expect mark ('\n' :: rest) = none := by
  cases mark with
  | nil => exact absurd rfl hne
  | cons d mark => exact expect_cons_of_ne (List.ne_of_not_mem_cons hmark)

/-- Whether a mark stands at the front of a line is seen in the line. -/
theorem isSome_expect_append_newline {mark : List Char} (hmark : '\n' ∉ mark)
    (cs rest : List Char) :
    (expect mark (cs ++ '\n' :: rest)).isSome = (expect mark cs).isSome := by
  induction mark generalizing cs with
  | nil => rfl
  | cons d mark ih =>
      rw [List.mem_cons, not_or] at hmark
      cases cs with
      | nil => rw [List.nil_append, expect_cons_of_ne hmark.1, expect]
      | cons c cs =>
          rw [List.cons_append, expect, expect]
          split
          · exact ih hmark.2 cs
          · rfl

theorem length_le_of_expect {mark cs : List Char} (h : (expect mark cs).isSome) :
    mark.length ≤ cs.length := by
  obtain ⟨rest, hrest⟩ := Option.isSome_iff_exists.mp h
  rw [expect_eq_some_iff.mp hrest, List.length_append]
  exact Nat.le_add_right _ _

namespace Marks

/-- Marks of which neither runs over the end of a line. -/
structure OnLine (m : Marks) : Prop where
  opening : '\n' ∉ m.opening
  closing : '\n' ∉ m.closing

variable {m : Marks}

/-- The end of a line is a character like any other to the search, except that a name that has been
begun is given up there, as it is at the end of the text. -/
theorem piecesFrom_append_newline (hm : m.OnLine) {skip : Nat} {name : Option (List Char)}
    {cs : List Char} (hskip : skip ≤ cs.length) (rest : List Char) :
    m.piecesFrom skip name (cs ++ '\n' :: rest) =
      m.piecesFrom skip name cs ++ .plain '\n' :: m.pieces rest := by
  have hopening : ∀ c cs, (expect m.opening (c :: (cs ++ '\n' :: rest))).isSome =
      (expect m.opening (c :: cs)).isSome := fun c cs =>
    isSome_expect_append_newline hm.opening (c :: cs) rest
  have hclosing : ∀ c cs, (expect m.closing (c :: (cs ++ '\n' :: rest))).isSome =
      (expect m.closing (c :: cs)).isSome := fun c cs =>
    isSome_expect_append_newline hm.closing (c :: cs) rest
  fun_induction piecesFrom m skip name cs with
  | case1 skip name =>
      obtain rfl : skip = 0 := Nat.le_zero.mp hskip
      rw [List.nil_append]
      cases name with
      | none =>
          rw [piecesFrom, expect_newline m.opening_ne_nil hm.opening, if_neg (by simp)]
          rfl
      | some name =>
          rw [piecesFrom, expect_newline m.closing_ne_nil hm.closing, if_neg (by simp),
            if_pos rfl, begun, begun, List.reverse_cons, ← List.append_assoc, List.map_append,
            List.append_assoc]
          rfl
  | case2 skip name c cs ih => exact ih (Nat.le_of_succ_le_succ hskip)
  | case3 c cs h ih =>
      rw [List.cons_append, piecesFrom, hopening, if_pos h,
        ih (Nat.sub_le_of_le_add (length_le_of_expect h))]
  | case4 c cs h ih =>
      rw [List.cons_append, piecesFrom, hopening, if_neg h, ih (Nat.zero_le _)]
      rfl
  | case5 name c cs h ih =>
      rw [List.cons_append, piecesFrom, hclosing, if_pos h,
        ih (Nat.sub_le_of_le_add (length_le_of_expect h))]
      rfl
  | case6 name cs h ih =>
      rw [List.cons_append, piecesFrom, hclosing, if_neg h, if_pos rfl, ih (Nat.zero_le _),
        List.append_assoc]
  | case7 name c cs h hc ih =>
      rw [List.cons_append, piecesFrom, hclosing, if_neg h, if_neg hc, ih (Nat.zero_le _)]

theorem replaceNames_append_newline (hm : m.OnLine) (replacement : List Char → List Char)
    (cs rest : List Char) : m.replaceNames replacement (cs ++ '\n' :: rest) =
      m.replaceNames replacement cs ++ '\n' :: m.replaceNames replacement rest := by
  rw [replaceNames, pieces, piecesFrom_append_newline hm (Nat.zero_le _), List.flatMap_append,
    List.flatMap_cons]
  rfl

/-- A name that is found is part of the text. -/
theorem subset_of_found {cs n source : List Char} (h : Piece.found n source ∈ m.pieces cs) :
    n ⊆ cs := by
  intro c hc
  rw [← m.flatMap_source_pieces cs]
  refine List.mem_flatMap.mpr ⟨_, h, ?_⟩
  rw [Piece.source, around_of_mem_piecesFrom h]
  exact List.mem_append_left _ (List.mem_append_right _ hc)

/-- A replacement that ends no line leaves a text without a line end without one. -/
theorem newline_not_mem_replaceNames {replacement : List Char → List Char}
    (hreplacement : ∀ n, '\n' ∉ n → '\n' ∉ replacement n) {cs : List Char} (h : '\n' ∉ cs) :
    '\n' ∉ m.replaceNames replacement cs := by
  intro hmem
  obtain ⟨piece, hpiece, hmem⟩ := List.mem_flatMap.mp hmem
  cases piece with
  | plain c =>
      refine h ?_
      rw [← m.flatMap_source_pieces cs]
      exact List.mem_flatMap.mpr ⟨_, hpiece, hmem⟩
  | found n source =>
      exact hreplacement n (fun hn => h (subset_of_found hpiece hn)) hmem

/-- The lines of a text in which names have been replaced are the lines of the text, each with its
own names replaced. -/
theorem lines_replaceNames (hm : m.OnLine) {replacement : List Char → List Char}
    (hreplacement : ∀ n, '\n' ∉ n → '\n' ∉ replacement n) (cs : List Char) :
    lines (m.replaceNames replacement cs) = (lines cs).map (m.replaceNames replacement) := by
  induction hlength : cs.length using Nat.strongRecOn generalizing cs with
  | ind n ih =>
      subst hlength
      by_cases hnewline : '\n' ∈ cs
      · obtain ⟨line, rest, rfl, hline⟩ := List.eq_append_cons_of_mem hnewline
        have hrest := ih _ (by simp; omega) rest rfl
        have hfirst := newline_not_mem_replaceNames (m := m) hreplacement hline
        rw [replaceNames_append_newline hm, lines_append_newline, lines_append_newline,
          lines_of_not_mem hline, lines_of_not_mem hfirst, hrest]
        rfl
      · have hfirst := newline_not_mem_replaceNames (m := m) hreplacement hnewline
        rw [lines_of_not_mem hnewline, lines_of_not_mem hfirst]
        rfl

end Marks

end Text

theorem placeholder_onLine : placeholder.OnLine := ⟨by decide, by decide⟩

theorem newline_not_mem_around {n : List Char} (h : '\n' ∉ n) : '\n' ∉ reference.around n := by
  intro hmem
  rcases List.mem_append.mp hmem with hmem | hclosing
  · rcases List.mem_append.mp hmem with hopening | hname
    · exact absurd hopening (by decide)
    · exact h hname
  · exact absurd hclosing (by decide)

theorem toList_translate (s : String) :
    (translate s).toList = placeholder.replaceNames reference.around s.toList :=
  String.toList_ofList

theorem lines_translate (s : String) : (lines (translate s).toList).map String.ofList =
    (lines s.toList).map fun line => translate (String.ofList line) := by
  rw [toList_translate,
    Marks.lines_replaceNames placeholder_onLine fun _ => newline_not_mem_around, List.map_map]
  refine List.map_congr_left fun line _ => ?_
  rw [translate, String.toList_ofList]
  rfl

/-- The content of a body that is known is the recorded one, translated. -/
theorem RequestRecord.rawBody_of_body? {r : RequestRecord} {b : Body} {content : String}
    (hbody : r.body? = some b) (hcontent : b.content = some content) :
    ∃ raw, r.rawBody = some raw ∧ content = translate raw := by
  obtain ⟨-, rfl⟩ | ⟨-, rfl⟩ := body?_cases hbody
  · obtain ⟨raw, hraw, rfl⟩ := Option.map_eq_some_iff.mp hcontent
    exact ⟨raw, hraw, rfl⟩
  · cases hcontent

/-- Translation goes line by line: whatever two texts hold, an end of a line between them keeps them
apart. So the lines of a translated text are those of the text, each translated on its own, and the
same holds for the body of a request. -/
theorem translate_line_by_line (a b : String) :
    translate (a ++ "\n" ++ b) = translate a ++ "\n" ++ translate b ∧
    (∀ text : String, (lines (translate text).toList).map String.ofList =
      (lines text.toList).map fun line => translate (String.ofList line)) ∧
    ∀ (r : RequestRecord) (body : Body) (content : String),
      r.body? = some body → body.content = some content → ∃ raw, r.rawBody = some raw ∧
        (lines content.toList).map String.ofList =
          (lines raw.toList).map fun line => translate (String.ofList line) := by
  refine ⟨?_, lines_translate, fun r body content hbody hcontent => ?_⟩
  · have hseam : (a ++ "\n" ++ b).toList = a.toList ++ '\n' :: b.toList := by
      rw [String.toList_append, String.toList_append, List.append_assoc]
      rfl
    rw [← String.toList_inj, toList_translate, hseam,
      Marks.replaceNames_append_newline placeholder_onLine, String.toList_append,
      String.toList_append, toList_translate, toList_translate, List.append_assoc]
    rfl
  · obtain ⟨raw, hraw, rfl⟩ := RequestRecord.rawBody_of_body? hbody hcontent
    exact ⟨raw, hraw, lines_translate raw⟩

/-! ## Around the placeholders -/

/-- A part of a text: literal text, or a variable by its name. -/
inductive Passage where
  | literal (cs : List Char)
  | name (n : List Char)

namespace Passage

/-- Literal text has no opening mark and does not end with half of one. A name has no braces and
stands on one line. -/
def Proper : Passage → Prop
  | literal cs => ¬ ['\x7b', '\x7b'] <:+: cs ∧ cs.getLast? ≠ some '\x7b'
  | name n => '\x7b' ∉ n ∧ '\x7d' ∉ n ∧ '\n' ∉ n

instance : DecidablePred Proper
  | literal cs =>
    inferInstanceAs (Decidable (¬ ['\x7b', '\x7b'] <:+: cs ∧ cs.getLast? ≠ some '\x7b'))
  | name n => inferInstanceAs (Decidable ('\x7b' ∉ n ∧ '\x7d' ∉ n ∧ '\n' ∉ n))

/-- The characters of the passage if names stand between given marks. -/
def source (m : Marks) : Passage → List Char
  | literal cs => cs
  | name n => m.around n

/-- The text that passages make if names stand between given marks. -/
def textOf (m : Marks) (passages : List Passage) : String :=
  String.ofList (passages.flatMap (source m))

/-- No placeholder begins in literal text, whatever follows it. -/
theorem Proper.unopened {cs : List Char} (h : (literal cs).Proper) (rest : List Char) :
    placeholder.Unopened cs rest := by
  obtain ⟨hinside, hlast⟩ := h
  intro tail htail hne
  cases hmark : expect placeholder.opening (tail ++ rest) with
  | none => rfl
  | some behind =>
      have htext := expect_eq_some_iff.mp hmark
      match tail with
      | [] => exact absurd rfl hne
      | [c] =>
          obtain ⟨front, rfl⟩ := htail
          obtain rfl := List.head_eq_of_cons_eq htext
          exact absurd List.getLast?_concat hlast
      | c :: d :: tail =>
          obtain ⟨rfl, hsecond⟩ := List.cons.inj htext
          obtain rfl := List.head_eq_of_cons_eq hsecond
          have hopening : ['\x7b', '\x7b'] <+: '\x7b' :: '\x7b' :: tail := List.prefix_append _ tail
          exact absurd (hopening.isInfix.trans htail.isInfix) hinside

theorem Proper.replaceNames_append {s : Passage} (h : s.Proper) (rest : List Char) :
    placeholder.replaceNames reference.around (s.source placeholder ++ rest) =
      s.source reference ++ placeholder.replaceNames reference.around rest := by
  cases s with
  | literal cs => exact Marks.replaceNames_append (h.unopened rest) reference.around
  | name n =>
      rw [source, Marks.replaceNames, Marks.pieces_around placeholder_braced h, List.flatMap_cons]
      rfl

theorem translate_textOf (passages : List Passage) (h : ∀ s ∈ passages, s.Proper) :
    translate (textOf placeholder passages) = textOf reference passages := by
  rw [translate, textOf, textOf, String.toList_ofList]
  congr 1
  induction passages with
  | nil => rfl
  | cons s passages ih =>
      obtain ⟨hs, hpassages⟩ := List.forall_mem_cons.mp h
      rw [List.flatMap_cons, hs.replaceNames_append, ih hpassages, List.flatMap_cons]

/-- What a passage becomes is literal text. -/
theorem Proper.proper_source {s : Passage} (h : s.Proper) :
    (literal (s.source reference)).Proper := by
  cases s with
  | literal cs => exact h
  | name n =>
      refine ⟨fun hopening => ?_, ?_⟩
      · have hcount : (reference.around n).count '\x7b' = 1 := by
          rw [Marks.around, List.count_append, List.count_append, List.count_eq_zero.mpr h.1]
          rfl
        have htwo : 2 ≤ (reference.around n).count '\x7b' := hopening.sublist.count_le '\x7b'
        omega
      · rw [source, Marks.around]
        show (_ ++ ['\x7d']).getLast? ≠ _
        rw [List.getLast?_concat]
        decide

end Passage

/-- A text of literal text and placeholders, in any order, becomes the same text with references in
the places of the placeholders, and this does not change any more. -/
theorem translate_passages (passages : List Passage) (h : ∀ s ∈ passages, s.Proper) :
    translate (Passage.textOf placeholder passages) = Passage.textOf reference passages ∧
    translate (translate (Passage.textOf placeholder passages)) =
      translate (Passage.textOf placeholder passages) := by
  have htranslated := Passage.translate_textOf passages h
  refine ⟨htranslated, ?_⟩
  -- The translated text is made of literal text alone.
  have hliteral := Passage.translate_textOf
    (passages.map fun s => .literal (s.source reference)) <| by
      rw [List.forall_mem_map]
      exact fun s hs => (h s hs).proper_source
  rw [Passage.textOf, Passage.textOf, List.flatMap_map, List.flatMap_map] at hliteral
  rw [htranslated]
  exact hliteral

/-- Single and double braces around the placeholders, two of these side by side and one without a
name. -/
theorem translate_passages_braces :
    translate "\x7d\x7ba\n$\x7b\x7bhost\x7d\x7d\x7b\x7b\x7d\x7d\x7d\x7d\x7b \x7b\x7bp q\x7d\x7d" =
        "\x7d\x7ba\n$$\x7bhost\x7d$\x7b\x7d\x7d\x7d\x7b $\x7bp q\x7d" ∧
      translate "\x7d\x7ba\n$$\x7bhost\x7d$\x7b\x7d\x7d\x7d\x7b $\x7bp q\x7d" =
        "\x7d\x7ba\n$$\x7bhost\x7d$\x7b\x7d\x7d\x7d\x7b $\x7bp q\x7d" := by
  obtain ⟨hfirst, hsecond⟩ := translate_passages
    [.literal "\x7d\x7ba\n$".toList, .name "host".toList, .name [],
      .literal "\x7d\x7d\x7b ".toList, .name "p q".toList] (by decide)
  rw [hfirst] at hsecond
  exact ⟨hfirst, hsecond⟩

end LoadScenario
