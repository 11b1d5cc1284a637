import LoadScenario.Placeholder

/-!
# Texts made of plain characters and marked names

A value of a variable is written as plain text with names between marks. The search for marks works
on characters and knows nothing of how a text was put together, so it has to be shown that it finds
the names that were written and no other. What could go wrong is that a mark comes about at a seam,
half of it in one part and half in the next. It cannot as long as braces stand in the marks only:
an opening mark ends with a brace, and then the character before that brace is one of a mark, too.

What comes out is `pieces_written`, for placeholders and for references alike, and with it the
names of a written text and what replacing them gives.
-/

namespace LoadScenario

open Text

/-- A part of a value: a plain character, or the name of a variable. -/
inductive Part where
  | char (c : Char)
  | name (n : List Char)

namespace Part

/-- Whether the part holds nothing that could be taken for a mark or end the line of a name. -/
def Clear : Part → Prop
  | char c => c ≠ '\x7b' ∧ c ≠ '\x7d'
  | name n => '\x7b' ∉ n ∧ '\x7d' ∉ n ∧ '\n' ∉ n

/-- The characters of the part if names stand between given marks. -/
def source (m : Marks) : Part → List Char
  | char c => [c]
  | name n => m.around n

/-- The name, if the part is one. -/
def name? : Part → Option (List Char)
  | char _ => none
  | name n => some n

/-- The characters of the part once names are replaced. -/
def replaced (replacement : List Char → List Char) : Part → List Char
  | char c => [c]
  | name n => replacement n

/-- What the search for marks is to make of the part. -/
def piece (m : Marks) : Part → Piece (List Char)
  | char c => .plain c
  | name n => .found n (m.around n)

theorem piece_injective (m : Marks) : Function.Injective (piece m) := by
  intro p q h
  cases p <;> cases q <;> cases h <;> rfl

end Part

/-- The text that parts make if names stand between given marks. -/
def written (m : Marks) (parts : List Part) : List Char := parts.flatMap (Part.source m)

/-- The names among parts, from left to right. -/
def namesOf (parts : List Part) : List (List Char) := parts.filterMap Part.name?

theorem written_cons (m : Marks) (p : Part) (parts : List Part) :
    written m (p :: parts) = p.source m ++ written m parts :=
  List.flatMap_cons

theorem mem_namesOf {n : List Char} {parts : List Part} :
    n ∈ namesOf parts ↔ Part.name n ∈ parts := by
  rw [namesOf, List.mem_filterMap]
  constructor
  · rintro ⟨p, hp, hn⟩
    cases p with
    | char c => cases hn
    | name n' =>
        obtain rfl : n' = n := Option.some.inj hn
        exact hp
  · intro h
    exact ⟨_, h, rfl⟩

namespace Text.Marks

/-- Marks whose opening ends with a brace, and whose closing begins with one. -/
structure Braced (m : Marks) : Prop where
  opening : ∃ c, m.opening = [c, '\x7b']
  closing : ∃ rest, m.closing = '\x7d' :: rest

/-- A written text begins with an opening brace only if the opening mark does. -/
theorem head_written {m : Marks} (hm : m.Braced) {parts : List Part}
    (hparts : ∀ p ∈ parts, p.Clear) {rest : List Char}
    (h : written m parts = '\x7b' :: rest) : m.opening = ['\x7b', '\x7b'] := by
  cases parts with
  | nil => cases h
  | cons p parts =>
      have hp := hparts p List.mem_cons_self
      rw [written_cons] at h
      cases p with
      | char c => exact absurd (List.cons.inj h).1 hp.1
      | name n =>
          obtain ⟨c, hc⟩ := hm.opening
          rw [Part.source, around, hc] at h
          rw [hc, (List.cons.inj h).1]

/-- No opening mark begins at a plain character. -/
theorem expect_opening_char {m : Marks} (hm : m.Braced) {c : Char} (hc : c ≠ '\x7b')
    {parts : List Part} (hparts : ∀ p ∈ parts, p.Clear) :
    (expect m.opening (c :: written m parts)).isSome = false := by
  obtain ⟨o, ho⟩ := hm.opening
  cases hx : expect m.opening (c :: written m parts) with
  | none => rfl
  | some rest =>
      have htext := expect_eq_some_iff.mp hx
      rw [ho] at htext
      obtain ⟨rfl, htail⟩ := List.cons.inj htext
      rw [head_written hm hparts htail] at ho
      exact absurd (List.cons.inj ho).1.symm hc

theorem expect_append_isSome (mark rest : List Char) : (expect mark (mark ++ rest)).isSome := by
  rw [expect_eq_some_iff.mpr rfl]
  rfl

theorem piecesFrom_length_append (m : Marks) (name : Option (List Char))
    (skipped rest : List Char) :
    m.piecesFrom skipped.length name (skipped ++ rest) = m.piecesFrom 0 name rest := by
  induction skipped with
  | nil => rfl
  | cons c skipped ih => rw [List.length_cons, List.cons_append, piecesFrom, ih]

/-- Inside of a name the search runs to the closing mark. -/
theorem piecesFrom_name {m : Marks} (hm : m.Braced) {n : List Char} (hbrace : '\x7d' ∉ n)
    (hline : '\n' ∉ n) (read rest : List Char) :
    m.piecesFrom 0 (some read) (n ++ m.closing ++ rest) =
      .found (read.reverse ++ n) (m.around (read.reverse ++ n)) :: m.piecesFrom 0 none rest := by
  obtain ⟨after, hclosing⟩ := hm.closing
  induction n generalizing read with
  | nil =>
      have hfound := expect_append_isSome m.closing rest
      rw [hclosing, List.cons_append] at hfound
      rw [List.nil_append, hclosing, List.cons_append, piecesFrom, hclosing, if_pos hfound,
        List.append_nil]
      rw [List.length_cons, Nat.add_sub_cancel, piecesFrom_length_append]
  | cons c n ih =>
      rw [List.mem_cons, not_or] at hbrace hline
      have hno : expect m.closing (c :: (n ++ m.closing ++ rest)) = none := by
        rw [hclosing, expect, if_neg (Ne.symm hbrace.1)]
      rw [List.cons_append, List.cons_append, piecesFrom, hno, if_neg (by simp),
        if_neg (Ne.symm hline.1), ih hbrace.2 hline.2]
      simp

theorem pieces_around {m : Marks} (hm : m.Braced) {n : List Char} (hn : (Part.name n).Clear)
    (rest : List Char) :
    m.pieces (m.around n ++ rest) = .found n (m.around n) :: m.pieces rest := by
  obtain ⟨-, hbrace, hline⟩ := hn
  obtain ⟨c, hc⟩ := hm.opening
  have hfound := expect_append_isSome m.opening (n ++ m.closing ++ rest)
  have hname := piecesFrom_name hm hbrace hline [] rest
  rw [hc] at hfound
  rw [pieces, around, List.append_assoc, List.append_assoc, ← List.append_assoc n, hc]
  rw [List.cons_append, List.cons_append, List.nil_append] at hfound ⊢
  rw [piecesFrom, hc, if_pos hfound]
  simp only [List.length_cons, List.length_nil, Nat.reduceAdd, Nat.add_one_sub_one]
  rw [piecesFrom, hname, around, hc]
  rfl

/-- The search finds the parts that were written. -/
theorem pieces_written {m : Marks} (hm : m.Braced) {parts : List Part}
    (hparts : ∀ p ∈ parts, p.Clear) : m.pieces (written m parts) = parts.map (Part.piece m) := by
  induction parts with
  | nil => rfl
  | cons p parts ih =>
      have hp := hparts p List.mem_cons_self
      have hrest : ∀ q ∈ parts, q.Clear := fun q hq => hparts q (List.mem_cons_of_mem p hq)
      rw [written_cons, List.map_cons, ← ih hrest]
      cases p with
      | char c =>
          have hno := expect_opening_char hm hp.1 hrest
          rw [Part.source, List.singleton_append, pieces, piecesFrom, hno]
          rfl
      | name n => rw [Part.source, pieces_around hm hp, Part.piece]

/-- No opening mark begins in the front of a text. -/
def Unopened (m : Marks) (front rest : List Char) : Prop :=
  ∀ tail, tail <:+ front → tail ≠ [] → expect m.opening (tail ++ rest) = none

/-- No mark begins in front of the first character that an opening mark could begin with. -/
theorem unopened_of_not_mem {m : Marks} {c : Char} (hmark : m.opening.head? = some c)
    {front : List Char} (hfront : c ∉ front) (rest : List Char) : m.Unopened front rest := by
  obtain ⟨mark, hopening⟩ := List.head?_eq_some_iff.mp hmark
  intro tail htail hne
  cases tail with
  | nil => exact absurd rfl hne
  | cons d tail =>
      have hd : d ≠ c := by
        rintro rfl
        exact hfront (htail.subset List.mem_cons_self)
      rw [hopening, List.cons_append, expect, if_neg hd]

theorem pieces_append {m : Marks} {front rest : List Char} (h : m.Unopened front rest) :
    m.pieces (front ++ rest) = front.map .plain ++ m.pieces rest := by
  induction front with
  | nil => rfl
  | cons c front ih =>
      have hno := h (c :: front) (List.suffix_refl _) (List.cons_ne_nil _ _)
      have hfront := ih fun tail htail => h tail (htail.trans (List.suffix_cons c front))
      rw [List.cons_append] at hno
      rw [List.cons_append, pieces, piecesFrom, hno, if_neg (by simp), List.map_cons,
        List.cons_append, ← hfront]
      rfl

theorem replaceNames_append {m : Marks} {front rest : List Char} (h : m.Unopened front rest)
    (replacement : List Char → List Char) :
    m.replaceNames replacement (front ++ rest) = front ++ m.replaceNames replacement rest := by
  rw [replaceNames, pieces_append h, List.flatMap_append, List.flatMap_map]
  exact congrArg (· ++ _) (List.flatMap_singleton' front)

/-- Whatever the text, a name that is found stands between marks. -/
theorem around_of_mem_piecesFrom {m : Marks} {skip : Nat} {name : Option (List Char)}
    {cs n source : List Char} (h : Piece.found n source ∈ m.piecesFrom skip name cs) :
    source = m.around n := by
  fun_induction piecesFrom m skip name cs with
  | case1 => simp at h
  | case2 _ _ _ _ ih => exact ih h
  | case3 _ _ _ ih => exact ih h
  | case4 c cs _ ih => exact ih (by simpa using h)
  | case5 name c cs _ ih =>
      rcases List.mem_cons.mp h with heq | hmem
      · obtain ⟨rfl, rfl⟩ := Piece.found.inj heq
        rfl
      · exact ih hmem
  | case6 name cs _ ih => exact ih (by simpa using h)
  | case7 _ _ _ _ _ ih => exact ih h

/-- A replacement that gives every name of a text back with its marks changes nothing. -/
theorem replaceNames_of_around {m : Marks} {replacement : List Char → List Char} {cs : List Char}
    (h : ∀ n ∈ m.names cs, replacement n = m.around n) : m.replaceNames replacement cs = cs := by
  have hpieces : ∀ p ∈ m.pieces cs, p.replaced replacement = p.source := by
    intro p hp
    cases p with
    | plain c => rfl
    | found n source =>
        rw [Piece.replaced, Piece.source, around_of_mem_piecesFrom hp]
        exact h n (List.mem_filterMap.mpr ⟨_, hp, rfl⟩)
  rw [replaceNames, List.flatMap_def, List.map_congr_left hpieces, ← List.flatMap_def,
    flatMap_source_pieces]

/-- A text is made of clear parts in one way at most. -/
theorem eq_of_written_eq {m : Marks} (hm : m.Braced) {parts parts' : List Part}
    (hparts : ∀ p ∈ parts, p.Clear) (hparts' : ∀ p ∈ parts', p.Clear)
    (h : written m parts = written m parts') : parts = parts' := by
  have hpieces := congrArg m.pieces h
  rw [pieces_written hm hparts, pieces_written hm hparts'] at hpieces
  exact (List.map_inj_right fun _ _ e => Part.piece_injective m e).mp hpieces

theorem names_written {m : Marks} (hm : m.Braced) {parts : List Part}
    (hparts : ∀ p ∈ parts, p.Clear) : m.names (written m parts) = namesOf parts := by
  rw [names, pieces_written hm hparts, List.filterMap_map, namesOf]
  congr 1
  funext p
  cases p <;> rfl

theorem replaceNames_written {m : Marks} (hm : m.Braced) {parts : List Part}
    (hparts : ∀ p ∈ parts, p.Clear) (replacement : List Char → List Char) :
    m.replaceNames replacement (written m parts) = parts.flatMap (Part.replaced replacement) := by
  rw [replaceNames, pieces_written hm hparts, List.flatMap_map]
  congr 1
  funext p
  cases p <;> rfl

end Text.Marks

theorem placeholder_braced : placeholder.Braced := ⟨⟨_, rfl⟩, ⟨_, rfl⟩⟩

theorem reference_braced : reference.Braced := ⟨⟨_, rfl⟩, ⟨_, rfl⟩⟩

theorem translate_append {front : List Char} (h : '\x7b' ∉ front) (rest : List Char) :
    translate (String.ofList (front ++ rest)) =
      String.ofList (front ++ (translate (String.ofList rest)).toList) := by
  simp only [translate, String.toList_ofList]
  rw [Marks.replaceNames_append (Marks.unopened_of_not_mem rfl h rest)]

/-- What has placeholders has braces, and what comes of it has dollar signs. -/
theorem translate_eq_self_or (s : String) :
    translate s = s ∨ '\x7b' ∈ s.toList ∧ '$' ∈ (translate s).toList := by
  cases hnames : placeholder.names s.toList with
  | nil =>
      have hsame : placeholder.replaceNames reference.around s.toList = s.toList :=
        Marks.replaceNames_of_around (by rw [hnames]; exact nofun)
      exact .inl (by rw [translate, hsame, String.ofList_toList])
  | cons n names =>
      have hn : n ∈ placeholder.names s.toList := hnames ▸ List.mem_cons_self
      obtain ⟨piece, hpiece, hvalue⟩ := List.mem_filterMap.mp hn
      cases piece with
      | plain c => cases hvalue
      | found n' source =>
          obtain rfl : n' = n := Option.some.inj hvalue
          have hsource := Marks.around_of_mem_piecesFrom hpiece
          refine .inr ⟨?_, ?_⟩
          · rw [← placeholder.flatMap_source_pieces s.toList]
            exact List.mem_flatMap.mpr ⟨_, hpiece, hsource ▸ List.mem_cons_self⟩
          · rw [translate, String.toList_ofList]
            exact List.mem_flatMap.mpr ⟨_, hpiece, List.mem_cons_self⟩

/-- Placeholders become references, and the plain text stays. -/
theorem translate_written {parts : List Part} (hparts : ∀ p ∈ parts, p.Clear) :
    translate (String.ofList (written placeholder parts)) =
      String.ofList (written reference parts) := by
  rw [translate, String.toList_ofList, Marks.replaceNames_written placeholder_braced hparts,
    written]
  congr 2

theorem references_written {parts : List Part} (hparts : ∀ p ∈ parts, p.Clear) :
    references (String.ofList (written reference parts)) =
      (namesOf parts).map String.ofList := by
  rw [references, String.toList_ofList, Marks.names_written reference_braced hparts]

end LoadScenario
