import LoadScenario.Text.Character
import LoadScenario.Text.Search
import Mathlib.Data.List.DropRight
import Mathlib.Data.List.TakeWhile

/-!
# White space that is skipped and trimmed

White space stands freely between the parts of what a script says and around the texts in it, and it
is skipped or trimmed where it does. A text that has none at its ends is left as it is by both, and
a text put together from such texts is such a text again.
-/

namespace LoadScenario.Text

section

variable {c : Char} {cs cs' rest : List Char}

theorem skipBlank_cons (hc : isBlank c = false) (cs : List Char) : skipBlank (c :: cs) = c :: cs :=
  List.dropWhile_cons_of_neg (by rw [hc]; exact Bool.false_ne_true)

theorem skipBlank_blank (hc : isBlank c = true) (cs : List Char) :
    skipBlank (c :: cs) = skipBlank cs :=
  List.dropWhile_cons_of_pos hc

theorem skipBlank_eq_nil_iff : skipBlank cs = [] ↔ ∀ c ∈ cs, isBlank c :=
  List.dropWhile_eq_nil_iff

/-- White space in front of a character that is none is skipped, and no more. -/
theorem skipBlank_gap {gap : List Char} (hgap : ∀ c ∈ gap, isBlank c) (hc : isBlank c = false)
    (cs : List Char) : skipBlank (gap ++ c :: cs) = c :: cs := by
  rw [skipBlank, List.dropWhile_append_of_pos hgap]
  exact skipBlank_cons hc cs

/-- What is skipped is white space, and what is left does not begin with any. -/
theorem exists_gap (cs : List Char) : ∃ gap, (∀ c ∈ gap, isBlank c) ∧ cs = gap ++ skipBlank cs ∧
    ∀ c ∈ (skipBlank cs).head?, isBlank c = false := by
  refine ⟨cs.takeWhile isBlank, fun c hc => List.mem_takeWhile_imp hc,
    List.takeWhile_append_dropWhile.symm, fun c hc => ?_⟩
  have hfirst := List.head?_dropWhile_not isBlank cs
  rw [← skipBlank, Option.mem_def.mp hc] at hfirst
  exact hfirst

theorem expect_gap_append {gap w : List Char} (hgap : ∀ c ∈ gap, isBlank c) (hw : w ≠ [])
    (hfirst : ∀ c ∈ w.head?, isBlank c = false) (rest : List Char) :
    expect w (skipBlank (gap ++ (w ++ rest))) = some rest := by
  cases w with
  | nil => exact absurd rfl hw
  | cons c w =>
      rw [List.cons_append, skipBlank_gap hgap (hfirst c rfl)]
      exact expect_eq_some_iff.mpr rfl

theorem expect_gap {gap : List Char} (hgap : ∀ c ∈ gap, isBlank c) (hc : isBlank c = false)
    (cs : List Char) : expect [c] (skipBlank (gap ++ c :: cs)) = some cs := by
  refine expect_gap_append hgap (List.cons_ne_nil c []) ?_ cs
  rintro _ ⟨⟩
  exact hc

theorem exists_gap_of_expect_append {w : List Char} (h : expect w (skipBlank cs) = some rest) :
    ∃ gap, (∀ d ∈ gap, isBlank d) ∧ cs = gap ++ (w ++ rest) := by
  obtain ⟨gap, hgap, hcs, -⟩ := exists_gap cs
  rw [expect_eq_some_iff.mp h] at hcs
  exact ⟨gap, hgap, hcs⟩

theorem exists_gap_of_expect (h : expect [c] (skipBlank cs) = some rest) :
    ∃ gap, (∀ d ∈ gap, isBlank d) ∧ cs = gap ++ c :: rest :=
  exists_gap_of_expect_append h

theorem expect_blank (hc : isBlank c = false) (cs : List Char) :
    expect [c] (skipBlank (c :: cs)) = some cs :=
  expect_gap (List.forall_mem_nil _) hc cs

/-- A character that is not white space may be taken for the end of what is skipped. -/
theorem skipBlank_append_cons (hc : isBlank c = false) (cs cs' : List Char) :
    skipBlank (cs ++ c :: cs') = skipBlank cs ++ c :: cs' := by
  rw [skipBlank, List.dropWhile_append]
  split
  next hnil =>
    rw [skipBlank, List.isEmpty_iff.mp hnil]
    exact skipBlank_cons hc cs'
  next => rfl

theorem trim_skipBlank (cs : List Char) : trim (skipBlank cs) = trim cs :=
  congrArg trimEnd (List.dropWhile_idempotent isBlank cs)

theorem isPrefix_trim (cs : List Char) : trim cs <+: skipBlank cs :=
  List.rdropWhile_prefix isBlank (skipBlank cs)

theorem trimEnd_of_blank (h : ∀ c ∈ cs, isBlank c) : trimEnd cs = [] :=
  List.rdropWhile_eq_nil_iff.mpr h

theorem trimEnd_append_cons (hc : isBlank c = false) (cs cs' : List Char) :
    trimEnd (cs ++ c :: cs') = cs ++ c :: trimEnd cs' := by
  have hreverse := skipBlank_append_cons hc cs'.reverse cs.reverse
  rw [trimEnd, List.reverse_append, List.reverse_cons, List.append_assoc, List.singleton_append]
  show (skipBlank _).reverse = _
  rw [hreverse, List.reverse_append, List.reverse_cons, List.reverse_reverse, List.append_assoc]
  rfl

theorem trim_append_cons (hc : isBlank c = false) (cs cs' : List Char) :
    trim (cs ++ c :: cs') = skipBlank cs ++ c :: trimEnd cs' := by
  rw [trim, skipBlank_append_cons hc, trimEnd_append_cons hc]

theorem trim_trimEnd (cs : List Char) : trim (trimEnd cs) = trim cs := by
  obtain ⟨gap, hgap, hcs, hfirst⟩ := exists_gap cs
  cases hskip : skipBlank cs with
  | nil =>
      rw [hskip, List.append_nil] at hcs
      rw [trimEnd_of_blank (hcs ▸ hgap), trim, trim, hskip]
      rfl
  | cons c rest =>
      rw [hskip] at hcs hfirst
      have hc := hfirst c rfl
      have hidempotent : trimEnd (trimEnd rest) = trimEnd rest :=
        List.rdropWhile_idempotent isBlank rest
      rw [hcs, trimEnd_append_cons hc, trim_append_cons hc, trim_append_cons hc, hidempotent]

theorem trim_subset (cs : List Char) : trim cs ⊆ cs := fun _ hc =>
  (List.dropWhile_suffix isBlank).subset ((isPrefix_trim cs).subset hc)

/-- A text without white space at its ends. -/
structure Unpadded (cs : List Char) : Prop where
  first : ∀ c ∈ cs.head?, isBlank c = false
  last : ∀ c ∈ cs.getLast?, isBlank c = false

theorem unpadded_iff : Unpadded cs ↔
    cs.head?.any isBlank = false ∧ cs.getLast?.any isBlank = false := by
  rw [Option.any_eq_false, Option.any_eq_false]
  exact ⟨fun h => ⟨h.first, h.last⟩, fun h => ⟨h.1, h.2⟩⟩

instance (cs : List Char) : Decidable (Unpadded cs) := decidable_of_iff _ unpadded_iff.symm

theorem unpadded_of_ends {d : Char} (hc : isBlank c = false) (hd : isBlank d = false)
    (cs : List Char) : Unpadded (c :: (cs ++ [d])) := by
  constructor
  · rintro _ ⟨⟩
    exact hc
  · rw [← List.cons_append, List.getLast?_concat]
    rintro _ ⟨⟩
    exact hd

theorem skipBlank_of_head (h : ∀ c ∈ cs.head?, isBlank c = false) : skipBlank cs = cs := by
  cases cs with
  | nil => rfl
  | cons c cs => exact skipBlank_cons (h c rfl) cs

theorem Unpadded.skipBlank_append (h : Unpadded cs) (hrest : ∀ c ∈ rest.head?, isBlank c = false) :
    skipBlank (cs ++ rest) = cs ++ rest := by
  cases cs with
  | nil => exact skipBlank_of_head hrest
  | cons c cs => exact skipBlank_cons (h.first c rfl) _

theorem Unpadded.trim_eq (h : Unpadded cs) : trim cs = cs := by
  have hend : skipBlank cs.reverse = cs.reverse := by
    refine skipBlank_of_head fun c hc => h.last c ?_
    rwa [List.head?_reverse] at hc
  rw [trim, skipBlank_of_head h.first, trimEnd]
  show (skipBlank cs.reverse).reverse = cs
  rw [hend, List.reverse_reverse]

theorem Unpadded.between (h : Unpadded cs) (hcs : cs ≠ []) (h' : Unpadded cs') (hcs' : cs' ≠ [])
    (separator : List Char) : Unpadded (cs ++ (separator ++ cs')) := by
  constructor
  · rw [List.head?_append_of_ne_nil cs hcs]
    exact h.first
  · rw [List.getLast?_append_of_ne_nil _ (List.append_ne_nil_of_right_ne_nil separator hcs'),
      List.getLast?_append_of_ne_nil _ hcs']
    exact h'.last

theorem Unpadded.intercalate {separator : List Char} {parts : List (List Char)}
    (h : ∀ part ∈ parts, part ≠ [] ∧ Unpadded part) : Unpadded (separator.intercalate parts) := by
  have hparts : ∀ part parts, (∀ p ∈ part :: parts, p ≠ [] ∧ Unpadded p) →
      separator.intercalate (part :: parts) ≠ [] ∧
        Unpadded (separator.intercalate (part :: parts)) := by
    intro part parts hall
    induction parts generalizing part with
    | nil =>
        rw [List.intercalate_singleton]
        exact hall part List.mem_cons_self
    | cons part' parts ih =>
        rw [List.forall_mem_cons] at hall
        obtain ⟨⟨hne, hunpadded⟩, hrest⟩ := hall
        obtain ⟨hne', hunpadded'⟩ := ih part' hrest
        rw [List.intercalate_cons_cons, List.append_assoc]
        exact ⟨List.append_ne_nil_of_left_ne_nil hne _,
          hunpadded.between hne hunpadded' hne' separator⟩
  cases parts with
  | nil => exact ⟨nofun, nofun⟩
  | cons part parts => exact (hparts part parts h).2

end

end LoadScenario.Text
