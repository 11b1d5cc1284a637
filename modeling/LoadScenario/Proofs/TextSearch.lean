import LoadScenario.Text.Search
import Mathlib.Data.List.Basic

/-!
# What a search finds

A search skips the characters of a match one by one, which is good for the loop and bad for whoever
wants to know what the search makes of a text that was put together from parts. Here the loop is
opened once: a match at the front of a text is one piece and the search goes on behind it, knowing
the last character of the match, and a character at which nothing is recognised is a piece of its
own.

Where a match stands is said by the text before it. Its length in bytes, which is what is recorded,
gives that text back.

A text that is split at a separator is the simple case of this: the parts of a text that was put
together are the parts of what it was put together from.
-/

namespace LoadScenario.Text

/-- Whether something holds of all characters of a text is found out by trying these, not by trying
all characters that there are. -/
instance (priority := high) decidableForallMem {p : Char → Prop} [∀ c, Decidable (p c)]
    (cs : List Char) : Decidable (∀ c ∈ cs, p c) :=
  List.decidableBAll p cs

/-- A property of the characters up to some number is found out by trying these. -/
theorem forall_of_toNat_lt {p : Char → Prop} {bound : Nat} (h : ∀ n < bound, p (Char.ofNat n))
    {c : Char} (hc : c.toNat < bound) : p c := by
  have hchar := h c.toNat hc
  rwa [Char.ofNat_toNat] at hchar

theorem toNat_lt_of_isAlpha {c : Char} (h : c.isAlpha) : c.toNat < 128 := by
  rcases Bool.or_eq_true_iff.mp h with hupper | hlower
  · have hle : c.val ≤ 'Z'.val := (of_decide_eq_true hupper).2
    exact Nat.lt_of_le_of_lt hle (by decide)
  · have hle : c.val ≤ 'z'.val := of_decide_eq_true (Bool.and_eq_true_iff.mp hlower).2
    exact Nat.lt_of_le_of_lt hle (by decide)

variable {α : Type} {recognize : Recognizer α}

/-! ## Stepping over a match -/

theorem piecesFrom_plain {previous : Option Char} {c : Char} {cs : List Char}
    (h : recognize previous (c :: cs) = none) :
    piecesFrom recognize 0 previous (c :: cs) =
      .plain c :: piecesFrom recognize 0 (some c) cs := by
  rw [piecesFrom, h]

theorem piecesFrom_length_append (recognize : Recognizer α) (previous : Option Char)
    (skipped rest : List Char) :
    piecesFrom recognize skipped.length previous (skipped ++ rest) =
      piecesFrom recognize 0 (skipped.getLast?.or previous) rest := by
  induction skipped generalizing previous with
  | nil => rfl
  | cons c skipped ih =>
      rw [List.length_cons, List.cons_append, piecesFrom, ih, List.getLast?_cons]
      cases skipped.getLast? <;> rfl

/-- A match at the front of a text is one piece, and the search goes on behind it. -/
theorem piecesFrom_found {previous : Option Char} {source rest : List Char} {a : α}
    (hsource : source ≠ []) (h : recognize previous (source ++ rest) = some (a, rest)) :
    piecesFrom recognize 0 previous (source ++ rest) =
      .found a source :: piecesFrom recognize 0 source.getLast? rest := by
  cases source with
  | nil => exact absurd rfl hsource
  | cons c source =>
      rw [List.cons_append] at h ⊢
      have hskip : (source ++ rest).length - rest.length = source.length := by
        rw [List.length_append, Nat.add_sub_cancel]
      rw [piecesFrom, h]
      simp only
      rw [hskip, List.take_left, piecesFrom_length_append, List.getLast?_cons]
      cases source.getLast? <;> rfl

/-- The matches from a place on. -/
def valuesFrom (recognize : Recognizer α) (previous : Option Char) (cs : List Char) : List α :=
  (piecesFrom recognize 0 previous cs).filterMap Piece.value?

theorem valuesFrom_found {previous : Option Char} {source rest : List Char} {a : α}
    (hsource : source ≠ []) (h : recognize previous (source ++ rest) = some (a, rest)) :
    valuesFrom recognize previous (source ++ rest) =
      a :: valuesFrom recognize source.getLast? rest := by
  rw [valuesFrom, piecesFrom_found hsource h]
  rfl

/-- A text in which no match begins is passed over. -/
theorem valuesFrom_suffixes {passed rest : List Char}
    (h : ∀ cs, cs <:+ passed → cs ≠ [] → ∀ previous, recognize previous (cs ++ rest) = none)
    (previous : Option Char) : valuesFrom recognize previous (passed ++ rest) =
      valuesFrom recognize (passed.getLast?.or previous) rest := by
  induction passed generalizing previous with
  | nil => rfl
  | cons c passed ih =>
      have hplain := h _ (List.suffix_refl _) (List.cons_ne_nil c passed) previous
      rw [List.cons_append] at hplain
      rw [List.cons_append, valuesFrom, piecesFrom_plain hplain]
      show valuesFrom recognize (some c) (passed ++ rest) = _
      rw [ih fun cs hcs => h cs (hcs.trans (List.suffix_cons c passed)), List.getLast?_cons]
      cases passed.getLast? <;> rfl

/-- Characters that begin no match are passed over. -/
theorem valuesFrom_passed {passed : List Char}
    (h : ∀ c ∈ passed, ∀ previous cs, recognize previous (c :: cs) = none)
    (previous : Option Char) (rest : List Char) :
    valuesFrom recognize previous (passed ++ rest) =
      valuesFrom recognize (passed.getLast?.or previous) rest := by
  refine valuesFrom_suffixes (fun cs hcs hne previous => ?_) previous
  cases cs with
  | nil => exact absurd rfl hne
  | cons c cs => exact h c (hcs.subset List.mem_cons_self) previous (cs ++ rest)

/-- A text of parts with a separator between them holds the matches of the parts. A part is looked
at behind the beginning of the text or behind a separator, and before a separator or the rest. -/
theorem valuesFrom_intercalate_append {β : Type} (start : Option Char → Prop)
    {write : β → List Char} (values : β → List α) {separator rest : List Char}
    (hseparator : ∀ c ∈ separator, ∀ previous cs, recognize previous (c :: cs) = none)
    (hstart : ∀ previous, start (separator.getLast?.or previous))
    (hrest : ∀ previous, valuesFrom recognize previous rest = []) {bs : List β}
    (hwrite : ∀ b ∈ bs, ∀ previous, start previous → ∀ behind,
      (behind = rest ∨ separator <+: behind) → ∃ previous',
        valuesFrom recognize previous (write b ++ behind) =
          values b ++ valuesFrom recognize previous' behind)
    {previous : Option Char} (hprevious : start previous) :
    valuesFrom recognize previous (separator.intercalate (bs.map write) ++ rest) =
      bs.flatMap values := by
  induction bs generalizing previous with
  | nil => exact hrest previous
  | cons b bs ih =>
      rw [List.forall_mem_cons] at hwrite
      cases bs with
      | nil =>
          obtain ⟨previous', hfound⟩ := hwrite.1 previous hprevious rest (.inl rfl)
          rw [List.map_singleton, List.intercalate_singleton, hfound, hrest, List.append_nil,
            List.flatMap_singleton]
      | cons b' bs =>
          rw [List.map_cons, List.map_cons, List.intercalate_cons_cons, List.append_assoc,
            List.append_assoc]
          obtain ⟨previous', hfound⟩ := hwrite.1 previous hprevious _
            (.inr (List.prefix_append separator _))
          rw [hfound, valuesFrom_passed hseparator, List.flatMap_cons]
          exact congrArg _ (ih hwrite.2 (hstart previous'))

theorem valuesFrom_intercalate {β : Type} {write : β → List Char} {value : β → α}
    {separator : List Char} (hseparator : ∀ c ∈ separator, ∀ previous cs,
      recognize previous (c :: cs) = none) {bs : List β}
    (hwrite : ∀ b ∈ bs, ∀ previous behind, (behind = [] ∨ separator <+: behind) → ∃ previous',
      valuesFrom recognize previous (write b ++ behind) =
        value b :: valuesFrom recognize previous' behind) (previous : Option Char) :
    valuesFrom recognize previous (separator.intercalate (bs.map write)) = bs.map value := by
  have hvalues : valuesFrom recognize previous (separator.intercalate (bs.map write) ++ []) =
      bs.flatMap fun b => [value b] :=
    valuesFrom_intercalate_append (fun _ => True) _ hseparator (fun _ => trivial) (fun _ => rfl)
      (fun b hb previous _ => hwrite b hb previous) trivial
  rw [List.append_nil] at hvalues
  rw [hvalues, List.map_eq_flatMap]

/-- What is found has been recognised somewhere. -/
theorem recognized_of_mem_piecesFrom {skip : Nat} {previous : Option Char} {cs source : List Char}
    {a : α} (h : Piece.found a source ∈ piecesFrom recognize skip previous cs) :
    ∃ previous' cs' rest, recognize previous' cs' = some (a, rest) := by
  fun_induction piecesFrom recognize skip previous cs with
  | case1 => cases h
  | case2 _ _ _ _ ih => exact ih h
  | case3 previous c cs _ ih =>
      rcases List.mem_cons.mp h with heq | hlater
      · cases heq
      · exact ih hlater
  | case4 previous c cs b rest hfound _ ih =>
      rcases List.mem_cons.mp h with heq | hlater
      · cases heq
        exact ⟨previous, c :: cs, rest, hfound⟩
      · exact ih hlater

theorem recognized_of_mem_valuesFrom {previous : Option Char} {cs : List Char} {a : α}
    (h : a ∈ valuesFrom recognize previous cs) :
    ∃ previous' cs' rest, recognize previous' cs' = some (a, rest) := by
  obtain ⟨piece, hpiece, hvalue⟩ := List.mem_filterMap.mp h
  cases piece with
  | plain c => cases hvalue
  | found b source =>
      cases hvalue
      exact recognized_of_mem_piecesFrom hpiece

theorem recognized_of_find? {cs : List Char} {a : α} (h : find? recognize cs = some a) :
    ∃ previous cs' rest, recognize previous cs' = some (a, rest) := by
  rw [find?, ← findSome?_value?_piecesFrom] at h
  obtain ⟨piece, hpiece, hvalue⟩ := List.exists_of_findSome?_eq_some h
  exact recognized_of_mem_valuesFrom (List.mem_filterMap.mpr ⟨piece, hpiece, hvalue⟩)

/-! ## Whether something occurs -/

/-- The matches among pieces, each with the text before it. -/
def matchesFrom : (before : List Char) → List (Piece α) → List (List Char × α)
  | _, [] => []
  | before, p :: ps =>
    let later := matchesFrom (before ++ p.source) ps
    match p.value? with
    | some a => (before, a) :: later
    | none => later

theorem matchesFrom_plain (before : List Char) (c : Char) (ps : List (Piece α)) :
    matchesFrom before (.plain c :: ps) = matchesFrom (before ++ [c]) ps := rfl

theorem matchesFrom_found (before : List Char) (a : α) (source : List Char) (ps : List (Piece α)) :
    matchesFrom before (.found a source :: ps) =
      (before, a) :: matchesFrom (before ++ source) ps := rfl

theorem byteLength_append (cs cs' : List Char) :
    byteLength (cs ++ cs') = byteLength cs + byteLength cs' := by
  induction cs with
  | nil => simp [byteLength]
  | cons c cs ih => rw [List.cons_append, byteLength, byteLength, ih, Nat.add_assoc]

theorem locate_eq (before : List Char) (ps : List (Piece α)) :
    locate (byteLength before) ps =
      (matchesFrom before ps).map fun (b, a) => (byteLength b, a) := by
  induction ps generalizing before with
  | nil => rfl
  | cons p ps ih =>
      rw [locate, matchesFrom, ← byteLength_append, ih]
      cases p.value? <;> rfl

theorem filterMap_value?_eq (before : List Char) (ps : List (Piece α)) :
    ps.filterMap Piece.value? = (matchesFrom before ps).map Prod.snd := by
  induction ps generalizing before with
  | nil => rfl
  | cons p ps ih =>
      rw [List.filterMap_cons, matchesFrom, ih (before ++ p.source)]
      cases p.value? <;> rfl

theorem takeBytes?_byteLength (before rest : List Char) :
    takeBytes? (byteLength before) (before ++ rest) = some before := by
  induction before with
  | nil => rw [byteLength, takeBytes?]
  | cons c before ih =>
      have hsize : c.utf8Size + byteLength before = c.utf8Size + byteLength before - 1 + 1 := by
        have := c.utf8Size_pos
        omega
      rw [byteLength, hsize, List.cons_append, takeBytes?, ← hsize,
        if_pos (Nat.le_add_right _ _), Nat.add_sub_cancel_left, ih]
      rfl

theorem prefix_of_mem_matchesFrom {before b : List Char} {a : α} {ps : List (Piece α)}
    (h : (b, a) ∈ matchesFrom before ps) : b <+: before ++ ps.flatMap Piece.source := by
  induction ps generalizing before with
  | nil => cases h
  | cons p ps ih =>
      rw [List.flatMap_cons, ← List.append_assoc]
      rw [matchesFrom] at h
      cases hp : p.value? with
      | none =>
          rw [hp] at h
          exact ih h
      | some a' =>
          rw [hp] at h
          rcases List.mem_cons.mp h with heq | hlater
          · obtain ⟨rfl, -⟩ := Prod.mk.inj heq
            rw [List.append_assoc]
            exact List.prefix_append _ _
          · exact ih hlater

theorem span_append {p : Char → Bool} {front : List Char} (hfront : ∀ c ∈ front, p c)
    (rest : List Char) (hrest : ∀ c ∈ rest.head?, p c = false) :
    (front ++ rest).takeWhile p = front ∧ (front ++ rest).dropWhile p = rest := by
  rw [List.takeWhile_append_of_pos hfront, List.dropWhile_append_of_pos hfront]
  cases rest with
  | nil => exact ⟨List.append_nil front, rfl⟩
  | cons c rest =>
      have hc : ¬ p c = true := by
        rw [hrest c rfl]
        exact Bool.false_ne_true
      rw [List.takeWhile_cons_of_neg hc, List.dropWhile_cons_of_neg hc, List.append_nil]
      exact ⟨rfl, rfl⟩

theorem expect_cons_of_ne {d c : Char} {w cs : List Char} (h : c ≠ d) :
    expect (d :: w) (c :: cs) = none := by
  rw [expect, if_neg h]

/-! ## Reading up to a closing word -/

section

variable {closing cs inner rest : List Char}

theorem eq_of_upTo_eq_some (h : upTo closing cs = some (inner, rest)) :
    cs = inner ++ (closing ++ rest) ∧ '\n' ∉ inner ∧
      ∀ inner' rest', cs = inner' ++ (closing ++ rest') → inner.length ≤ inner'.length := by
  induction cs generalizing inner with
  | nil => cases h
  | cons c cs ih =>
      rw [upTo] at h
      split at h
      next hclosed =>
        cases h
        rw [List.nil_append]
        exact ⟨expect_eq_some_iff.mp hclosed, List.not_mem_nil, fun _ _ _ => Nat.zero_le _⟩
      next hopen =>
        split at h
        next => cases h
        next hline =>
          obtain ⟨⟨later, rest'⟩, hlater, heq⟩ := Option.map_eq_some_iff.mp h
          cases heq
          obtain ⟨htext, hinner, hshortest⟩ := ih hlater
          refine ⟨congrArg _ htext, ?_, fun inner' rest' htext' => ?_⟩
          · rw [List.mem_cons, not_or]
            exact ⟨Ne.symm hline, hinner⟩
          · cases inner' with
            | nil =>
                rw [List.nil_append] at htext'
                rw [expect_eq_some_iff.mpr htext'] at hopen
                cases hopen
            | cons d inner' =>
                exact Nat.succ_le_succ (hshortest inner' rest' (List.cons.inj htext').2)

/-- A closing word that is not found on the line stands behind it, if anywhere. -/
theorem newline_mem_of_upTo_eq_none (h : upTo closing cs = none) (hclosing : closing ≠ [])
    (htext : cs = inner ++ (closing ++ rest)) : '\n' ∈ inner := by
  induction cs generalizing inner with
  | nil =>
      have hempty := List.append_eq_nil_iff.mp htext.symm
      exact absurd (List.append_eq_nil_iff.mp hempty.2).1 hclosing
  | cons c cs ih =>
      rw [upTo] at h
      split at h
      next => cases h
      next hopen =>
        cases inner with
        | nil =>
            rw [List.nil_append] at htext
            rw [expect_eq_some_iff.mpr htext] at hopen
            cases hopen
        | cons d inner =>
            obtain ⟨rfl, hrest⟩ := List.cons.inj htext
            split at h
            next hline =>
              rw [hline]
              exact List.mem_cons_self
            next => exact List.mem_cons_of_mem _ (ih (Option.map_eq_none_iff.mp h) hrest)

end

/-! ## Splitting -/

theorem splitOn_cons_of_ne {separator c : Char} {cs part : List Char} {parts : List (List Char)}
    (hc : c ≠ separator) (h : cs.splitOn separator = part :: parts) :
    (c :: cs).splitOn separator = (c :: part) :: parts := by
  rw [List.splitOn_cons_eq_if_modifyHead, if_neg (by rwa [beq_iff_eq]), h]
  rfl

theorem splitOn_append_of_not_mem {separator : Char} {cs : List Char} (h : separator ∉ cs)
    (cs' : List Char) : ∃ part parts, (cs ++ cs').splitOn separator = (cs ++ part) :: parts := by
  induction cs with
  | nil =>
      cases hparts : cs'.splitOn separator with
      | nil => exact absurd hparts (List.splitOn_ne_nil _ _)
      | cons part parts => exact ⟨part, parts, hparts⟩
  | cons c cs ih =>
      rw [List.mem_cons, not_or] at h
      obtain ⟨part, parts, hparts⟩ := ih h.2
      exact ⟨part, parts, splitOn_cons_of_ne (Ne.symm h.1) hparts⟩

end LoadScenario.Text
