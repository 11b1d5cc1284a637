import LoadScenario.Proofs.TextSearch
import Mathlib.Data.List.Pairwise

/-!
# Where the matches of a search stand

A search goes over a text once, from left to right, and goes on behind each match. Three things
follow for any recogniser that takes up some text and leaves the rest alone, and together they say
what is found without saying how: a match is recognised where it stands, it ends before the next one
begins, and a place at which something can be recognised lies in a match, if only as its first
character (`exists_covers`). So what is recognised and not found is covered by a match that began
earlier.
-/

namespace LoadScenario.Text

/-- A match with the text before it and its own text. -/
structure Occurrence (α : Type) where
  before : List Char
  source : List Char
  value : α
  deriving DecidableEq

variable {α : Type}

namespace Occurrence

/-- Whether the character behind some text belongs to a match. -/
def Covers (o : Occurrence α) (place : List Char) : Prop :=
  o.before <+: place ∧ place.length < (o.before ++ o.source).length

/-- Whether a match ends before another begins. -/
def Precedes (o o' : Occurrence α) : Prop := o.before ++ o.source <+: o'.before

end Occurrence

/-- The matches among pieces, if some text stands before the first piece. -/
def occurrencesFrom : (before : List Char) → List (Piece α) → List (Occurrence α)
  | _, [] => []
  | before, .plain c :: ps => occurrencesFrom (before ++ [c]) ps
  | before, .found a source :: ps => ⟨before, source, a⟩ :: occurrencesFrom (before ++ source) ps

/-- The matches in a text. -/
def occurrences (recognize : Recognizer α) (cs : List Char) : List (Occurrence α) :=
  occurrencesFrom [] (pieces recognize cs)

theorem matchesFrom_eq (before : List Char) (ps : List (Piece α)) :
    matchesFrom before ps = (occurrencesFrom before ps).map fun o => (o.before, o.value) := by
  induction ps generalizing before with
  | nil => rfl
  | cons p ps ih =>
      cases p with
      | plain c => rw [matchesFrom_plain, ih, occurrencesFrom]
      | found a source => rw [matchesFrom_found, ih, occurrencesFrom, List.map_cons]

theorem findAll_eq (recognize : Recognizer α) (cs : List Char) :
    findAll recognize cs = (occurrences recognize cs).map Occurrence.value := by
  rw [findAll, filterMap_value?_eq [], matchesFrom_eq, List.map_map]
  rfl

theorem locate_pieces (recognize : Recognizer α) (cs : List Char) :
    locate 0 (pieces recognize cs) =
      (occurrences recognize cs).map fun o => (byteLength o.before, o.value) := by
  show locate (byteLength []) _ = _
  rw [locate_eq, matchesFrom_eq, List.map_map]
  rfl

/-! ## Going over a text -/

/-- A recogniser that takes up some characters and leaves the rest of the text as it is. -/
def Consumes (recognize : Recognizer α) : Prop :=
  ∀ previous cs a rest, recognize previous cs = some (a, rest) →
    ∃ source, source ≠ [] ∧ cs = source ++ rest

/-- The matches in a text that stands behind another. -/
def occurrencesBehind (recognize : Recognizer α) (before cs : List Char) : List (Occurrence α) :=
  occurrencesFrom before (piecesFrom recognize 0 before.getLast? cs)

section

variable {recognize : Recognizer α} {before cs source rest : List Char} {c : Char} {a : α}
variable {o o' : Occurrence α}

theorem occurrencesBehind_plain (h : recognize before.getLast? (c :: cs) = none) :
    occurrencesBehind recognize before (c :: cs) =
      occurrencesBehind recognize (before ++ [c]) cs := by
  rw [occurrencesBehind, piecesFrom_plain h, occurrencesFrom, occurrencesBehind,
    List.getLast?_concat]

theorem occurrencesBehind_found (hsource : source ≠ [])
    (h : recognize before.getLast? (source ++ rest) = some (a, rest)) :
    occurrencesBehind recognize before (source ++ rest) =
      ⟨before, source, a⟩ :: occurrencesBehind recognize (before ++ source) rest := by
  rw [occurrencesBehind, piecesFrom_found hsource h, occurrencesFrom, occurrencesBehind,
    List.getLast?_append_of_ne_nil before hsource]

/-- How a search goes on: it passes a character or it finds a match. -/
theorem search_cases (hconsumes : Consumes recognize) {motive : List Char → List Char → Prop}
    (nil : ∀ before, motive before [])
    (plain : ∀ before c cs, recognize before.getLast? (c :: cs) = none →
      motive (before ++ [c]) cs → motive before (c :: cs))
    (found : ∀ before source rest a, source ≠ [] →
      recognize before.getLast? (source ++ rest) = some (a, rest) →
      motive (before ++ source) rest → motive before (source ++ rest))
    (before cs : List Char) : motive before cs := by
  match cs with
  | [] => exact nil before
  | c :: cs =>
      cases h : recognize before.getLast? (c :: cs) with
      | none =>
          exact plain before c cs h
            (search_cases hconsumes nil plain found (before ++ [c]) cs)
      | some result =>
          obtain ⟨a, rest⟩ := result
          obtain ⟨source, hsource, heq⟩ := hconsumes _ _ _ _ h
          rw [heq] at h ⊢
          exact found before source rest a hsource h
            (search_cases hconsumes nil plain found (before ++ source) rest)
termination_by cs.length
decreasing_by
  · simp
  · have hpos := List.length_pos_of_ne_nil hsource
    have hlength := congrArg List.length heq
    rw [List.length_append] at hlength
    omega

/-! ## What is found -/

theorem recognized_of_mem_occurrencesBehind (hconsumes : Consumes recognize)
    (ho : o ∈ occurrencesBehind recognize before cs) : before <+: o.before ∧ o.source ≠ [] ∧
      ∃ after, before ++ cs = o.before ++ (o.source ++ after) ∧
        recognize o.before.getLast? (o.source ++ after) = some (o.value, after) := by
  induction before, cs using search_cases hconsumes with
  | nil before => cases ho
  | plain before c cs h ih =>
      rw [occurrencesBehind_plain h] at ho
      obtain ⟨hbefore, hsource, after, htext, hfound⟩ := ih ho
      rw [List.append_assoc, List.singleton_append] at htext
      exact ⟨(List.prefix_append _ _).trans hbefore, hsource, after, htext, hfound⟩
  | found before source rest a hsource h ih =>
      rw [occurrencesBehind_found hsource h] at ho
      rcases List.mem_cons.mp ho with rfl | ho
      · exact ⟨List.prefix_refl _, hsource, rest, rfl, h⟩
      · obtain ⟨hbefore, hsource', after, htext, hfound⟩ := ih ho
        rw [List.append_assoc] at htext
        exact ⟨(List.prefix_append _ _).trans hbefore, hsource', after, htext, hfound⟩

theorem pairwise_occurrencesBehind (hconsumes : Consumes recognize) (before cs : List Char) :
    (occurrencesBehind recognize before cs).Pairwise Occurrence.Precedes := by
  induction before, cs using search_cases hconsumes with
  | nil before => exact .nil
  | plain before c cs h ih =>
      rw [occurrencesBehind_plain h]
      exact ih
  | found before source rest a hsource h ih =>
      rw [occurrencesBehind_found hsource h]
      exact .cons (fun o ho => (recognized_of_mem_occurrencesBehind hconsumes ho).1) ih

theorem exists_covers_behind (hconsumes : Consumes recognize) {place after : List Char}
    (htext : before ++ cs = place ++ after) (hplace : before <+: place)
    (h : (recognize place.getLast? after).isSome) :
    ∃ o ∈ occurrencesBehind recognize before cs, o.Covers place := by
  induction before, cs using search_cases hconsumes with
  | nil before =>
      obtain ⟨⟨a, rest⟩, hfound⟩ := Option.isSome_iff_exists.mp h
      obtain ⟨source, hsource, rfl⟩ := hconsumes _ _ _ _ hfound
      have hlength := congrArg List.length htext
      have hpos := List.length_pos_of_ne_nil hsource
      have hle := hplace.length_le
      simp only [List.append_nil, List.length_append] at hlength
      omega
  | plain before c cs hnone ih =>
      rw [occurrencesBehind_plain hnone]
      obtain ⟨passed, rfl⟩ := hplace
      rw [List.append_assoc, List.append_cancel_left_eq] at htext
      cases passed with
      | nil =>
          obtain rfl : c :: cs = after := htext
          rw [List.append_nil, hnone] at h
          cases h
      | cons d passed =>
          obtain ⟨rfl, rfl⟩ := List.cons.inj htext
          refine ih (by simp) ⟨passed, by simp⟩
  | found before source rest a hsource hfound ih =>
      rw [occurrencesBehind_found hsource hfound]
      by_cases hlength : place.length < (before ++ source).length
      · exact ⟨_, List.mem_cons_self, hplace, hlength⟩
      · have hbehind : before ++ source <+: place := by
          refine List.prefix_of_prefix_length_le ?_ (List.prefix_append place after)
            (Nat.le_of_not_lt hlength)
          rw [← htext, ← List.append_assoc]
          exact List.prefix_append _ rest
        obtain ⟨o, ho, hcovers⟩ := ih (by rw [← htext, List.append_assoc]) hbehind
        exact ⟨o, List.mem_cons_of_mem _ ho, hcovers⟩

/-! ## The matches in a text -/

theorem occurrences_eq (recognize : Recognizer α) (cs : List Char) :
    occurrences recognize cs = occurrencesBehind recognize [] cs := rfl

variable (hconsumes : Consumes recognize)

include hconsumes

theorem recognized_of_mem_occurrences (ho : o ∈ occurrences recognize cs) : o.source ≠ [] ∧
    ∃ after, cs = o.before ++ (o.source ++ after) ∧
      recognize o.before.getLast? (o.source ++ after) = some (o.value, after) := by
  rw [occurrences_eq] at ho
  exact (recognized_of_mem_occurrencesBehind hconsumes ho).2

theorem pairwise_occurrences (cs : List Char) :
    (occurrences recognize cs).Pairwise Occurrence.Precedes := by
  rw [occurrences_eq]
  exact pairwise_occurrencesBehind hconsumes [] cs

/-- Where something can be recognised there is a match. -/
theorem exists_covers {place after : List Char} (htext : cs = place ++ after)
    (h : (recognize place.getLast? after).isSome) :
    ∃ o ∈ occurrences recognize cs, o.Covers place := by
  rw [occurrences_eq]
  exact exists_covers_behind hconsumes htext List.nil_prefix h

/-- No place belongs to two matches. -/
theorem eq_of_covers (ho : o ∈ occurrences recognize cs) (ho' : o' ∈ occurrences recognize cs)
    (h : o.Covers o'.before) : o = o' := by
  by_contra hne
  have hsymm : Std.Symm fun o o' : Occurrence α => o.Precedes o' ∨ o'.Precedes o :=
    ⟨fun _ _ => Or.symm⟩
  have hpairwise : (occurrences recognize cs).Pairwise fun o o' => o.Precedes o' ∨ o'.Precedes o :=
    (pairwise_occurrences hconsumes cs).imp Or.inl
  have hpos := List.length_pos_of_ne_nil (recognized_of_mem_occurrences hconsumes ho').1
  obtain ⟨hbefore, hlength⟩ := h
  rcases hpairwise.forall ho ho' hne with hfirst | hfirst
  · exact absurd hfirst.length_le (Nat.not_le_of_lt hlength)
  · have hle := (hfirst.trans hbefore).length_le
    rw [List.length_append] at hle
    omega

end

end LoadScenario.Text
