import LoadScenario.Json.Printer
import LoadScenario.Proofs.TextCaptures

/-!
# Literals that a printer of JSON writes

A printed string is a literal of a script, too, and whoever writes one means the text that was
printed. Both quotes and backslashes are printed with a backslash in front, which the reader of
literals takes off again. But a control character is printed as a letter or as a number in
hexadecimal digits, and the reader, to whom every escape is a backslash and the character itself,
gives back the letter or the digits. So a text is read back just if it has no control character.
-/

namespace LoadScenario.Script

open Text

/-- The characters that a printer writes neither as they are nor behind a mere backslash. -/
def IsControl (c : Char) : Prop := c.toNat < 0x20

instance : DecidablePred IsControl := fun c => inferInstanceAs (Decidable (c.toNat < 0x20))

/-- What a printed character is read as. -/
def misread (c : Char) : List Char := if IsControl c then (Json.escapeChar c).tail else [c]

section

variable {c d : Char} {cs : List Char}

/-! ## How a character is printed -/

theorem escapeChar_of_not_control (h : ¬ IsControl c) :
    Json.escapeChar c = Quote.double.escape c := by
  have hne : ∀ d, IsControl d → c ≠ d := by
    rintro d hd rfl
    exact h hd
  rw [Json.escapeChar, Quote.escape]
  by_cases hquote : c = '"'
  · rw [if_pos hquote, if_pos (.inr hquote), hquote]
  by_cases hslash : c = '\\'
  · rw [if_neg hquote, if_pos hslash, if_pos (.inl hslash), hslash]
  have hplain : ¬ (c = '\\' ∨ c = Quote.double.char) := not_or.mpr ⟨hslash, hquote⟩
  rw [if_neg hquote, if_neg hslash, if_neg (hne _ (by decide)), if_neg (hne _ (by decide)),
    if_neg (hne _ (by decide)), if_neg (hne _ (by decide)), if_neg (hne _ (by decide)),
    if_neg (show ¬ c.toNat < 0x20 from h), if_neg hplain]

/-- A control character is printed as a backslash and something that is neither the character nor
anything that would be read in another way behind it. -/
theorem escapeChar_of_control (h : IsControl c) : ∃ d more, Json.escapeChar c = '\\' :: d :: more ∧
    d ≠ c ∧ d ≠ '\n' ∧ ∀ e ∈ more, e ≠ '"' ∧ e ≠ '\\' := by
  have hprinted : ∀ n < 0x20, (Json.escapeChar (Char.ofNat n)).head? = some '\\' ∧
      (Json.escapeChar (Char.ofNat n)).tail.head? ∉ [none, some (Char.ofNat n), some '\n'] ∧
      ∀ e ∈ (Json.escapeChar (Char.ofNat n)).tail.tail, e ≠ '"' ∧ e ≠ '\\' := by
    decide
  obtain ⟨hfirst, hsecond, hmore⟩ := hprinted c.toNat h
  rw [Char.ofNat_toNat] at hfirst hsecond hmore
  match hchars : Json.escapeChar c with
  | [] =>
      rw [hchars] at hfirst
      cases hfirst
  | [e] =>
      rw [hchars] at hsecond
      exact absurd List.mem_cons_self hsecond
  | e :: d :: more =>
      rw [hchars] at hfirst hsecond hmore
      cases hfirst
      refine ⟨d, more, rfl, ?_, ?_, hmore⟩
      · rintro rfl
        exact hsecond (List.mem_cons_of_mem _ List.mem_cons_self)
      · rintro rfl
        exact hsecond (List.mem_cons_of_mem _ (List.mem_cons_of_mem _ List.mem_cons_self))

/-! ## How it is read -/

theorem literalText_plain (h : ∀ c ∈ cs, c ≠ '"' ∧ c ≠ '\\') : LiteralText .double false cs := by
  induction cs with
  | nil => exact .nil
  | cons c cs ih =>
      rw [List.forall_mem_cons] at h
      exact .plain h.1.1 h.1.2 nofun (ih h.2)

theorem ne_newline_of_not_control (h : ¬ IsControl c) : c ≠ '\n' := by
  rintro rfl
  exact h (by decide)

theorem literalText_printed (cs : List Char) :
    LiteralText .double false (cs.flatMap Json.escapeChar) := by
  induction cs with
  | nil => exact .nil
  | cons c cs ih =>
      rw [List.flatMap_cons]
      refine LiteralText.append ?_ ih
      by_cases hc : IsControl c
      · obtain ⟨d, more, hchars, -, hd, hmore⟩ := escapeChar_of_control hc
        rw [hchars]
        exact .pair hd (literalText_plain hmore)
      · rw [escapeChar_of_not_control hc, ← List.flatMap_singleton Quote.double.escape]
        exact Quote.double.literalText_escaped false nofun

theorem withoutEscapes_printed (cs : List Char) :
    withoutEscapes (cs.flatMap Json.escapeChar) = cs.flatMap misread := by
  induction cs with
  | nil => rfl
  | cons c cs ih =>
      rw [List.flatMap_cons, List.flatMap_cons, misread]
      by_cases hc : IsControl c
      · obtain ⟨d, more, hchars, -, hd, hmore⟩ := escapeChar_of_control hc
        rw [if_pos hc, hchars, List.cons_append, List.cons_append, withoutEscapes_pair hd,
          withoutEscapes_append fun e he => (hmore e he).2, ih]
        rfl
      · rw [if_neg hc, escapeChar_of_not_control hc, Quote.escape]
        split
        next => exact (withoutEscapes_pair (ne_newline_of_not_control hc) _).trans (congrArg _ ih)
        next hplain =>
          exact (withoutEscapes_plain (not_or.mp hplain).1 _).trans (congrArg _ ih)

theorem flatMap_misread_iff : cs.flatMap misread = cs ↔ ∀ c ∈ cs, ¬ IsControl c := by
  induction cs with
  | nil => exact iff_of_true rfl (List.forall_mem_nil _)
  | cons c cs ih =>
      rw [List.flatMap_cons, List.forall_mem_cons, misread]
      by_cases hc : IsControl c
      · obtain ⟨d, more, hchars, hd, -⟩ := escapeChar_of_control hc
        rw [if_pos hc, hchars]
        exact iff_of_false (fun heq => hd (List.head_eq_of_cons_eq heq)) fun h => h.1 hc
      · rw [if_neg hc, List.singleton_append, List.cons_inj_right, ih]
        exact (and_iff_right hc).symm

end

/-- A printed text is read as a literal, and it is the text that was printed exactly if that has no
control character. -/
theorem printed_literal_iff (w : String) :
    literalText? (String.ofList (Json.quote w)) =
        some (String.ofList (w.toList.flatMap misread)) ∧
      (literalText? (String.ofList (Json.quote w)) = some w ↔
        ∀ c ∈ w.toList, ¬ IsControl c) := by
  have hread : literalText? (String.ofList (Json.quote w)) =
      some (String.ofList (w.toList.flatMap misread)) := by
    have hliteral : literal anyLine (Json.quote w) =
        some (w.toList.flatMap Json.escapeChar, []) :=
      literal_eq_some_iff.mpr ⟨.double, rfl, literalText_printed w.toList⟩
    have hquote : skipBlank (Json.quote w) = Json.quote w := skipBlank_cons (by decide) _
    rw [literalText?, String.toList_ofList, hquote, hliteral, ← withoutEscapes_printed]
    rfl
  refine ⟨hread, ?_⟩
  rw [hread, Option.some_inj, ← String.toList_inj, String.toList_ofList, flatMap_misread_iff]

/-- An end of a line is read as a letter. -/
theorem printed_newline_misread :
    literalText? (String.ofList (Json.quote "a\nb")) = some "anb" ∧
      String.ofList (Json.quote "a\nb") = "\"a\\nb\"" := by
  decide

end LoadScenario.Script
