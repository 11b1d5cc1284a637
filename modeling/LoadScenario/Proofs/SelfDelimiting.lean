import LoadScenario.Proofs.TextSearch
import LoadScenario.Scenario.Block

/-!
# Writing that shows where it ends

A way of writing values is self-delimiting when the value can be read off its text whatever comes
behind it: two texts that begin with written values and are equal begin with the same value and
leave the same rest. Texts put together from self-delimiting parts in a fixed order are
self-delimiting again, and so is a list whose elements stand one behind the other before an end that
no element begins with.

The two kinds of text that a scenario writes without knowing what is in them are of this kind. A
string literal ends at its first unescaped double quote. A word of letters or digits ends before
the first character that is neither, so it takes a character of that sort behind it.
-/

namespace LoadScenario

/-- What is written shows where it ends. -/
def SelfDelimiting {α : Type} (write : α → List Char) : Prop :=
  ∀ a b x y, write a ++ x = write b ++ y → a = b ∧ x = y

namespace SelfDelimiting

variable {α β : Type} {f : α → List Char} {g : β → List Char}

theorem prepend (hf : SelfDelimiting f) (t : List Char) : SelfDelimiting fun a => t ++ f a := by
  intro a b x y h
  rw [List.append_assoc, List.append_assoc, List.append_cancel_left_eq] at h
  exact hf a b x y h

theorem append (hf : SelfDelimiting f) (t : List Char) : SelfDelimiting fun a => f a ++ t := by
  intro a b x y h
  rw [List.append_assoc, List.append_assoc] at h
  obtain ⟨rfl, hrest⟩ := hf a b _ _ h
  exact ⟨rfl, List.append_cancel_left hrest⟩

theorem pair (hf : SelfDelimiting f) (hg : SelfDelimiting g) :
    SelfDelimiting fun p : α × β => f p.1 ++ g p.2 := by
  rintro ⟨a, b⟩ ⟨a', b'⟩ x y h
  simp only [List.append_assoc] at h
  obtain ⟨rfl, hrest⟩ := hf a a' _ _ h
  obtain ⟨rfl, hxy⟩ := hg b b' x y hrest
  exact ⟨rfl, hxy⟩

theorem comp (hf : SelfDelimiting f) {i : β → α} (hi : Function.Injective i) :
    SelfDelimiting fun b => f (i b) := by
  intro a b x y h
  obtain ⟨hab, hrest⟩ := hf _ _ x y h
  exact ⟨hi hab, hrest⟩

/-- A list of things with an end that is not the beginning of any of them. -/
theorem list (hf : SelfDelimiting f) {t : List Char}
    (hend : ∀ a x y, f a ++ x ≠ t ++ y) : SelfDelimiting fun l : List α => l.flatMap f ++ t := by
  intro l
  induction l with
  | nil =>
      intro l' x y h
      cases l' with
      | nil => exact ⟨rfl, List.append_cancel_left h⟩
      | cons b l' =>
          simp only [List.flatMap_nil, List.nil_append, List.flatMap_cons, List.append_assoc] at h
          exact absurd h.symm (hend b _ _)
  | cons a l ih =>
      intro l' x y h
      cases l' with
      | nil =>
          simp only [List.flatMap_nil, List.nil_append, List.flatMap_cons, List.append_assoc] at h
          exact absurd h (hend a _ _)
      | cons b l' =>
          simp only [List.flatMap_cons, List.append_assoc] at h
          obtain ⟨rfl, hrest⟩ := hf a b _ _ h
          rw [← List.append_assoc, ← List.append_assoc] at hrest
          obtain ⟨rfl, hxy⟩ := ih l' x y hrest
          exact ⟨rfl, hxy⟩

/-- A text that begins with a keyword, when no keyword is the beginning of another. -/
theorem keyword {κ : Type} (word : κ → List Char) {sort : α → κ}
    (hword : ∀ k k', word k <+: word k' → k = k')
    (hf : ∀ a b x y, sort a = sort b → f a ++ x = f b ++ y → a = b ∧ x = y) :
    SelfDelimiting fun a => word (sort a) ++ f a := by
  intro a b x y h
  simp only [List.append_assoc] at h
  have hsort : sort a = sort b := by
    rcases List.prefix_or_prefix_of_prefix (List.prefix_append (word (sort a)) (f a ++ x))
      (h ▸ List.prefix_append (word (sort b)) (f b ++ y)) with hab | hba
    · exact hword _ _ hab
    · exact (hword _ _ hba).symm
  rw [hsort, List.append_cancel_left_eq] at h
  exact hf a b x y hsort h

end SelfDelimiting

/-! ## Words -/

/-- A word ends where the characters of its sort do. -/
theorem word_append_inj {p : Char → Bool} {a b x y : List Char} (ha : ∀ c ∈ a, p c)
    (hb : ∀ c ∈ b, p c) (hx : ∀ c ∈ x.head?, p c = false) (hy : ∀ c ∈ y.head?, p c = false)
    (h : a ++ x = b ++ y) : a = b ∧ x = y := by
  obtain ⟨htake, hdrop⟩ := Text.span_append ha x hx
  obtain ⟨htake', hdrop'⟩ := Text.span_append hb y hy
  rw [h] at htake hdrop
  exact ⟨htake.symm.trans htake', hdrop.symm.trans hdrop'⟩

theorem isDigit_of_mem_number {n : Nat} {c : Char} (hc : c ∈ (toString n).toList) :
    c.isDigit = true := by
  rw [Nat.toString_eq_repr, Nat.toList_repr] at hc
  exact Nat.isDigit_of_mem_toDigits (by decide) (by decide) hc

theorem number_injective {n m : Nat} (h : (toString n).toList = (toString m).toList) : n = m := by
  rw [Nat.toString_eq_repr, Nat.toString_eq_repr, Nat.toList_repr, Nat.toList_repr] at h
  rw [← Nat.ofDigitChars_ten_toDigits (n := n), h, Nat.ofDigitChars_ten_toDigits]

theorem number_append_inj {n m : Nat} {x y : List Char} (hx : ∀ c ∈ x.head?, c.isDigit = false)
    (hy : ∀ c ∈ y.head?, c.isDigit = false)
    (h : (toString n).toList ++ x = (toString m).toList ++ y) : n = m ∧ x = y := by
  obtain ⟨hnm, hxy⟩ := word_append_inj (fun _ => isDigit_of_mem_number)
    (fun _ => isDigit_of_mem_number) hx hy h
  exact ⟨number_injective hnm, hxy⟩

theorem cons_ne_number_append {c : Char} (hc : c.isDigit = false) (n : Nat) (x y : List Char) :
    c :: x ≠ (toString n).toList ++ y := by
  intro h
  cases hn : (toString n).toList with
  | nil =>
      rw [Nat.toString_eq_repr, Nat.toList_repr] at hn
      exact Nat.toDigits_ne_nil hn
  | cons d ds =>
      rw [hn] at h
      have hd : d.isDigit = true := isDigit_of_mem_number (by rw [hn]; exact List.mem_cons_self)
      rw [← List.head_eq_of_cons_eq h, hc] at hd
      exact absurd hd (by decide)

/-! ## String literals -/

namespace Scenario

/-- A character as it stands in a literal. -/
def escapeChar (c : Char) : List Char := if c = '\\' ∨ c = '"' then ['\\', c] else [c]

theorem escapeChar_selfDelimiting : SelfDelimiting escapeChar := by
  intro c d x y h
  rw [escapeChar, escapeChar] at h
  split at h
  · split at h
    · simp only [List.cons_append, List.nil_append, List.cons.injEq, true_and] at h
      exact h
    · next hd => exact absurd (.inl (List.head_eq_of_cons_eq h).symm) hd
  · split at h
    · next hc _ => exact absurd (.inl (List.head_eq_of_cons_eq h)) hc
    · simp only [List.cons_append, List.nil_append, List.cons.injEq] at h
      exact h

/-- No character begins with the quote that ends the literal. -/
theorem escapeChar_ne_quote (c : Char) (x y : List Char) : escapeChar c ++ x ≠ ['"'] ++ y := by
  intro h
  rw [escapeChar] at h
  split at h
  · exact absurd (List.head_eq_of_cons_eq h) (by decide)
  · next hc => exact absurd (.inr (List.head_eq_of_cons_eq h)) hc

theorem literal_toList (s : String) :
    (literal s).toList = ['"'] ++ (s.toList.flatMap escapeChar ++ ['"']) := by
  rw [literal, String.toList_ofList]
  rfl

theorem literal_selfDelimiting : SelfDelimiting fun s => (literal s).toList := by
  simp only [literal_toList]
  exact ((escapeChar_selfDelimiting.list escapeChar_ne_quote).comp
    fun _ _ => String.toList_injective).prepend _

end Scenario

end LoadScenario
