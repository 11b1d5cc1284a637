import LoadScenario.Proofs.MarkedText
import LoadScenario.Proofs.TextSearch

/-!
# Which names a search for marks finds

A text has a name wherever the name stands between its marks on one line, and such places can
overlap. Of these the search takes the leftmost, with the shortest name that is closed there, and it
goes on behind the closing mark. `Marks.Finds` says this of the text alone.

The search itself makes one pass and never goes back. When a line ends inside of a name it gives up
the opening mark, and with it every other one that it has read as part of the name. That is right
because a closing mark for one of those would have closed the name that was begun first.
-/

namespace LoadScenario.Text

/-- The text behind its first line. -/
def behindLine : List Char → List Char
  | [] => []
  | c :: cs => if c = '\n' then cs else behindLine cs

theorem behindLine_append {line : List Char} (h : '\n' ∉ line) (cs : List Char) :
    behindLine (line ++ '\n' :: cs) = cs := by
  induction line with
  | nil => rfl
  | cons c line ih =>
      rw [List.mem_cons, not_or] at h
      rw [List.cons_append, behindLine, if_neg (Ne.symm h.1), ih h.2]

theorem behindLine_of_not_mem {cs : List Char} (h : '\n' ∉ cs) : behindLine cs = [] := by
  induction cs with
  | nil => rfl
  | cons c cs ih =>
      rw [List.mem_cons, not_or] at h
      rw [behindLine, if_neg (Ne.symm h.1), ih h.2]

theorem length_behindLine_le (cs : List Char) : (behindLine cs).length ≤ cs.length := by
  induction cs with
  | nil => exact Nat.le_refl _
  | cons c cs ih =>
      rw [behindLine]
      split
      next => exact Nat.le_succ _
      next => exact Nat.le_succ_of_le ih

namespace Marks

variable (m : Marks)

/-! ## Where names are -/

/-- Behind some text stands a name between its marks, on one line. -/
structure NameAt (cs place name after : List Char) : Prop where
  text : cs = place ++ (m.opening ++ (name ++ (m.closing ++ after)))
  oneLine : '\n' ∉ name

/-- The name that is found first: no other begins further left, and no shorter one begins there. -/
structure FirstName (cs place name after : List Char) : Prop extends
    m.NameAt cs place name after where
  leftmost : ∀ {place' name' after'}, m.NameAt cs place' name' after' →
    place.length ≤ place'.length
  shortest : ∀ {name' after'}, m.NameAt cs place name' after' → name.length ≤ name'.length

/-- A search of a text finds a name: the first, or one that it finds behind the first. -/
inductive Finds : (cs name : List Char) → Prop
  | first {cs place name after : List Char} : m.FirstName cs place name after → Finds cs name
  | later {cs place first after name : List Char} :
      m.FirstName cs place first after → Finds after name → Finds cs name

/-- What a search finds, if it finds the first name and goes on behind it. -/
inductive Searched (cs : List Char) : (names : List (List Char)) → Prop
  | nothing : (∀ place name after, ¬ m.NameAt cs place name after) → Searched cs []
  | first {place name after : List Char} :
      m.FirstName cs place name after → Searched cs (name :: m.names after)

variable {m} {cs front place name after : List Char} {names : List (List Char)}

theorem NameAt.prepend (h : m.NameAt cs place name after) (front : List Char) :
    m.NameAt (front ++ cs) (front ++ place) name after :=
  ⟨by rw [h.text, List.append_assoc], h.oneLine⟩

theorem NameAt.exists_behind (h : m.NameAt (front ++ cs) place name after)
    (hle : front.length ≤ place.length) :
    ∃ place', place = front ++ place' ∧ m.NameAt cs place' name after := by
  have htext := h.text
  obtain ⟨place', rfl⟩ : front <+: place :=
    List.prefix_of_prefix_length_le (List.prefix_append front cs) ⟨_, htext.symm⟩ hle
  rw [List.append_assoc, List.append_cancel_left_eq] at htext
  exact ⟨place', rfl, htext, h.oneLine⟩

/-- Nothing else is found behind text at which no name begins. -/
theorem Searched.prepend (h : m.Searched cs names)
    (hfront : ∀ {place name after}, m.NameAt (front ++ cs) place name after →
      front.length ≤ place.length) : m.Searched (front ++ cs) names := by
  cases h with
  | nothing hnone =>
      refine .nothing fun place name after hname => ?_
      obtain ⟨place', -, hbehind⟩ := hname.exists_behind (hfront hname)
      exact hnone _ _ _ hbehind
  | first hfirst =>
      refine .first ⟨hfirst.toNameAt.prepend front, fun hname => ?_, fun hname => ?_⟩
      · obtain ⟨place', rfl, hbehind⟩ := hname.exists_behind (hfront hname)
        rw [List.length_append, List.length_append]
        exact Nat.add_le_add_left (hfirst.leftmost hbehind) _
      · obtain ⟨place', hplace, hbehind⟩ := hname.exists_behind (hfront hname)
        rw [← List.append_cancel_left hplace] at hbehind
        exact hfirst.shortest hbehind

theorem FirstName.unique {place' name' after' : List Char} (h : m.FirstName cs place name after)
    (h' : m.FirstName cs place' name' after') : name = name' ∧ after = after' := by
  have hplaces : place.length = place'.length :=
    Nat.le_antisymm (h.leftmost h'.toNameAt) (h'.leftmost h.toNameAt)
  have htext := h.text.symm.trans h'.text
  obtain ⟨rfl, -⟩ := List.append_inj htext hplaces
  have hnames : name.length = name'.length :=
    Nat.le_antisymm (h.shortest h'.toNameAt) (h'.shortest h.toNameAt)
  rw [List.append_cancel_left_eq, List.append_cancel_left_eq] at htext
  obtain ⟨rfl, hrest⟩ := List.append_inj htext hnames
  exact ⟨rfl, List.append_cancel_left hrest⟩

/-! ## What the pass makes of a text -/

theorem names_eq (m : Marks) (cs : List Char) :
    m.names cs = (m.piecesFrom 0 none cs).filterMap Piece.value? := rfl

theorem names_plain {c : Char} (h : expect m.opening (c :: cs) = none) :
    m.names (c :: cs) = m.names cs := by
  rw [names_eq, piecesFrom, h]
  rfl

theorem filterMap_value?_map_plain (cs : List Char) :
    (cs.map (Piece.plain (α := List Char))).filterMap Piece.value? = [] := by
  rw [List.filterMap_map, List.filterMap_eq_nil_iff]
  exact fun _ _ => rfl

/-- The search skips what is left of a mark once its first character has been read. -/
theorem piecesFrom_mark {mark rest : List Char} {c : Char} (hmark : mark ≠ [])
    (h : expect mark (c :: cs) = some rest) (name : Option (List Char)) :
    m.piecesFrom (mark.length - 1) name cs = m.piecesFrom 0 name rest := by
  cases mark with
  | nil => exact absurd rfl hmark
  | cons d mark =>
      obtain ⟨-, rfl⟩ := List.cons.inj (expect_eq_some_iff.mp h)
      exact piecesFrom_length_append m name mark rest

/-- Inside of a name the search goes on behind the closing mark, or behind the line. -/
theorem filterMap_value?_piecesFrom_some (m : Marks) (read cs : List Char) :
    (m.piecesFrom 0 (some read) cs).filterMap Piece.value? =
      match upTo m.closing cs with
      | some (name, after) => (read.reverse ++ name) :: m.names after
      | none => m.names (behindLine cs) := by
  induction cs generalizing read with
  | nil =>
      rw [piecesFrom, filterMap_value?_map_plain]
      rfl
  | cons c cs ih =>
      rw [piecesFrom, upTo]
      cases hclosed : expect m.closing (c :: cs) with
      | some after =>
          rw [if_pos Option.isSome_some, piecesFrom_mark m.closing_ne_nil hclosed,
            List.filterMap_cons]
          simp only [Piece.value?, List.append_nil, names_eq]
      | none =>
          simp only [Option.isSome_none, Bool.false_eq_true, if_false]
          by_cases hline : c = '\n'
          · rw [if_pos hline, if_pos hline, List.filterMap_append, filterMap_value?_map_plain,
              behindLine, if_pos hline]
            rfl
          · rw [if_neg hline, if_neg hline, ih, behindLine, if_neg hline]
            cases upTo m.closing cs with
            | none => rfl
            | some found => simp

theorem names_opening (m : Marks) (cs : List Char) :
    m.names (m.opening ++ cs) =
      match upTo m.closing cs with
      | some (name, after) => name :: m.names after
      | none => m.names (behindLine cs) := by
  have hopening := m.opening_ne_nil
  obtain ⟨c, rest, htext⟩ : ∃ c rest, m.opening ++ cs = c :: rest :=
    List.exists_cons_of_ne_nil (List.append_ne_nil_of_left_ne_nil hopening cs)
  have hfound : expect m.opening (c :: rest) = some cs := expect_eq_some_iff.mpr htext.symm
  rw [htext, names_eq, piecesFrom, hfound, if_pos Option.isSome_some,
    piecesFrom_mark hopening hfound, filterMap_value?_piecesFrom_some]
  rfl

/-- If the name that is begun first is not closed on its line, no other begins on that line. -/
theorem NameAt.newline_mem (h : m.NameAt (m.opening ++ cs) place name after)
    (hopening : '\n' ∉ m.opening) (hopen : upTo m.closing cs = none) : '\n' ∈ place := by
  have htext : m.opening ++ cs = (place ++ (m.opening ++ name)) ++ (m.closing ++ after) := by
    rw [h.text]
    simp only [List.append_assoc]
  have hle : m.opening.length ≤ (place ++ (m.opening ++ name)).length := by
    rw [List.length_append, List.length_append]
    omega
  -- The closing mark of the other name stands behind the first opening mark, too.
  obtain ⟨inner, hinner⟩ : m.opening <+: place ++ (m.opening ++ name) :=
    List.prefix_of_prefix_length_le (List.prefix_append _ cs) ⟨_, htext.symm⟩ hle
  rw [← hinner, List.append_assoc, List.append_cancel_left_eq] at htext
  have hmem : '\n' ∈ place ++ (m.opening ++ name) := by
    rw [← hinner]
    exact List.mem_append_right _ (newline_mem_of_upTo_eq_none hopen m.closing_ne_nil htext)
  rcases List.mem_append.mp hmem with hplace | hbehind
  · exact hplace
  · rcases List.mem_append.mp hbehind with hmark | hname
    · exact absurd hmark hopening
    · exact absurd hname h.oneLine

/-- A place that has an end of a line before it lies behind the first line. -/
theorem length_le_of_newline_mem {line rest : List Char} (hline : '\n' ∉ line)
    (hplace : place <+: line ++ '\n' :: rest) (h : '\n' ∈ place) :
    (line ++ ['\n']).length ≤ place.length := by
  refine Nat.le_of_not_lt fun hlt => hline ?_
  rw [List.length_append, List.length_singleton] at hlt
  exact (List.prefix_of_prefix_length_le hplace (List.prefix_append line _)
    (Nat.le_of_lt_succ hlt)).subset h

theorem searched_plain {c : Char} (h : expect m.opening (c :: cs) = none)
    (hsearched : m.Searched cs names) : m.Searched (c :: cs) names := by
  have hfront : ∀ {place name after}, m.NameAt ([c] ++ cs) place name after →
      [c].length ≤ place.length := by
    intro place name after hname
    cases place with
    | nil =>
        have hmark := (expect_eq_some_iff (w := m.opening)).mpr hname.text
        cases h.symm.trans hmark
    | cons d place => exact Nat.succ_le_succ (Nat.zero_le _)
  exact hsearched.prepend hfront

theorem searched_closed (h : upTo m.closing cs = some (name, after)) :
    m.Searched (m.opening ++ cs) (name :: m.names after) := by
  obtain ⟨hcs, hname, hshortest⟩ := eq_of_upTo_eq_some h
  have hfirst : m.FirstName (m.opening ++ cs) [] name after :=
    ⟨⟨congrArg _ hcs, hname⟩, fun _ => Nat.zero_le _,
      fun hother => hshortest _ _ (List.append_cancel_left hother.text)⟩
  exact .first hfirst

theorem searched_unclosed (hopening : '\n' ∉ m.opening) (h : upTo m.closing cs = none)
    (hsearched : m.Searched (behindLine cs) names) : m.Searched (m.opening ++ cs) names := by
  by_cases hnewline : '\n' ∈ cs
  · obtain ⟨line, rest, rfl, hline⟩ := List.eq_append_cons_of_mem hnewline
    have hfirst : '\n' ∉ m.opening ++ line := fun hmem =>
      (List.mem_append.mp hmem).elim hopening hline
    have hparts : m.opening ++ (line ++ '\n' :: rest) =
        (m.opening ++ line ++ ['\n']) ++ rest := by
      simp only [List.append_assoc, List.singleton_append]
    rw [behindLine_append hline] at hsearched
    rw [hparts]
    refine hsearched.prepend fun {place _ _} hname => ?_
    rw [← hparts] at hname
    have hplace : place <+: m.opening ++ line ++ '\n' :: rest := by
      rw [List.append_assoc, hname.text]
      exact List.prefix_append place _
    exact length_le_of_newline_mem hfirst hplace (hname.newline_mem hopening h)
  · -- There is no further line, and no name on this one.
    rw [behindLine_of_not_mem hnewline] at hsearched
    have hnone : ∀ place name after, ¬ m.NameAt (m.opening ++ cs) place name after := by
      intro place name after hname
      have hmem : '\n' ∈ m.opening ++ cs := by
        rw [hname.text]
        exact List.mem_append_left _ (hname.newline_mem hopening h)
      exact (List.mem_append.mp hmem).elim hopening hnewline
    cases hsearched with
    | nothing => exact .nothing hnone
    | first hfirst =>
        have hempty := (List.append_eq_nil_iff.mp hfirst.text.symm).2
        exact absurd (List.append_eq_nil_iff.mp hempty).1 m.opening_ne_nil

/-- The pass finds the first name and goes on behind it. -/
theorem searched_names (hopening : '\n' ∉ m.opening) (cs : List Char) :
    m.Searched cs (m.names cs) := by
  -- Behind a line that is given up the search goes on much further down than at the next character.
  induction hlength : cs.length using Nat.strongRecOn generalizing cs with
  | ind n ih =>
      subst hlength
      cases cs with
      | nil =>
          refine .nothing fun place name after h => ?_
          have hempty := (List.append_eq_nil_iff.mp h.text.symm).2
          exact m.opening_ne_nil (List.append_eq_nil_iff.mp hempty).1
      | cons c cs =>
          cases hfound : expect m.opening (c :: cs) with
          | none =>
              rw [names_plain hfound]
              exact searched_plain hfound (ih _ (Nat.lt_succ_self _) cs rfl)
          | some behind =>
              have htext := expect_eq_some_iff.mp hfound
              have hlt : (behindLine behind).length < (c :: cs).length := by
                have hpos := List.length_pos_iff.mpr m.opening_ne_nil
                have hle := length_behindLine_le behind
                rw [htext, List.length_append]
                omega
              have hsearched := ih _ hlt (behindLine behind) rfl
              rw [htext, names_opening]
              cases hclosed : upTo m.closing behind with
              | some found => exact searched_closed hclosed
              | none => exact searched_unclosed hopening hclosed hsearched

theorem Searched.eq_cons (h : m.Searched cs names) (hfirst : m.FirstName cs place name after) :
    names = name :: m.names after := by
  cases h with
  | nothing hnone => exact absurd hfirst.toNameAt (hnone _ _ _)
  | first hfirst' =>
      obtain ⟨rfl, rfl⟩ := hfirst'.unique hfirst
      rfl

theorem finds_of_mem_names (hopening : '\n' ∉ m.opening) (cs : List Char)
    (h : name ∈ m.names cs) : m.Finds cs name := by
  induction hlength : cs.length using Nat.strongRecOn generalizing cs with
  | ind n ih =>
      subst hlength
      generalize hnames : m.names cs = names at h
      have hsearched := searched_names hopening cs
      rw [hnames] at hsearched
      cases hsearched with
      | nothing => cases h
      | @first place found after hfirst =>
          rcases List.mem_cons.mp h with rfl | hlater
          · exact .first hfirst
          · have hlt : after.length < cs.length := by
              have hpos := List.length_pos_iff.mpr m.opening_ne_nil
              rw [hfirst.text]
              simp only [List.length_append]
              omega
            exact .later hfirst (ih _ hlt after hlater rfl)

/-- A search finds the leftmost, shortest name of a text and what it finds behind it. -/
theorem finds_iff (hopening : '\n' ∉ m.opening) : m.Finds cs name ↔ name ∈ m.names cs := by
  constructor
  · intro h
    induction h with
    | first hfirst =>
        rw [(searched_names hopening _).eq_cons hfirst]
        exact List.mem_cons_self
    | later hfirst _ ih =>
        rw [(searched_names hopening _).eq_cons hfirst]
        exact List.mem_cons_of_mem _ ih
  · exact finds_of_mem_names hopening cs

end Marks

end LoadScenario.Text
