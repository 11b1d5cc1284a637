import LoadScenario.Proofs.SelfDelimiting

/-!
# Where a literal ends

A text is put between quotes by two replacements, of the backslashes first and of the quotes then.
The order matters: the other way round the backslash in front of a quote would be doubled, and the
quote would end the literal (see the example at the end). In this order each backslash and each
quote of the text gets one backslash of its own, in whatever run it stands and also at the end of
the text.

Whoever reads the literal starts behind its opening quote, takes a backslash together with the next
character for that character, and stops at the first quote that is left. What is read is the text,
and what is left behind the quote is what was put there.
-/

namespace LoadScenario.Scenario

open Text

/-- The text of a literal and what stands behind the literal, read from behind the opening quote. -/
def quotedText? : List Char → Option (List Char × List Char)
  | [] => none
  | '"' :: cs => some ([], cs)
  | ['\\'] => none
  | '\\' :: c :: cs => (quotedText? cs).map fun (text, rest) => (c :: text, rest)
  | c :: cs => (quotedText? cs).map fun (text, rest) => (c :: text, rest)

theorem quotedText?_plain {c : Char} (hquote : c ≠ '"') (hslash : c ≠ '\\') (cs : List Char) :
    quotedText? (c :: cs) = (quotedText? cs).map fun (text, rest) => (c :: text, rest) := by
  rw [quotedText?]
  · exact fun h => hquote h
  · exact fun h _ => hslash h
  · exact fun _ _ h _ => hslash h

theorem quotedText?_escapeChar (c : Char) (cs : List Char) :
    quotedText? (escapeChar c ++ cs) =
      (quotedText? cs).map fun (text, rest) => (c :: text, rest) := by
  rw [escapeChar]
  split
  next =>
    rw [List.cons_append, List.cons_append, List.nil_append, quotedText?]
  next hplain =>
    rw [not_or] at hplain
    exact quotedText?_plain hplain.2 hplain.1 cs

/-- An escaped text is read as the text, up to the quote behind it. -/
theorem quotedText?_escaped (cs rest : List Char) :
    quotedText? (cs.flatMap escapeChar ++ '"' :: rest) = some (cs, rest) := by
  induction cs with
  | nil => rw [List.flatMap_nil, List.nil_append, quotedText?]
  | cons c cs ih =>
      rw [List.flatMap_cons, List.append_assoc, quotedText?_escapeChar, ih]
      rfl

/-! ## The two replacements -/

theorem replaceWord_singleton (c : Char) (replacement cs : List Char) :
    replaceWord [c] replacement cs = cs.flatMap fun d => if d = c then replacement else [d] := by
  induction cs with
  | nil => rfl
  | cons d cs ih =>
      rw [replaceWord] at ih ⊢
      rw [replaceWordFrom, List.flatMap_cons, ← ih, expect]
      by_cases hd : d = c
      · rw [if_pos hd, if_pos hd, expect]
        rfl
      · rw [if_neg hd, if_neg hd]
        rfl

/-- The backslashes doubled, and then a backslash in front of each quote. -/
def replaced (cs : List Char) : List Char :=
  replaceWord ['"'] ['\\', '"'] (replaceWord ['\\'] ['\\', '\\'] cs)

theorem replaced_eq (cs : List Char) : replaced cs = cs.flatMap escapeChar := by
  rw [replaced, replaceWord_singleton, replaceWord_singleton, List.flatMap_assoc]
  refine congrArg (cs.flatMap ·) (funext fun c => ?_)
  by_cases hslash : c = '\\'
  · subst hslash
    rfl
  · rw [if_neg hslash, List.flatMap_singleton, escapeChar]
    by_cases hquote : c = '"'
    · rw [if_pos hquote, if_pos (.inr hquote), hquote]
    · rw [if_neg hquote, if_neg (not_or.mpr ⟨hslash, hquote⟩)]

/-- A literal is a text after the two replacements between quotes, and whoever reads it from behind
the opening quote gets the text and leaves what follows the literal. -/
theorem literal_read_to_end (value following : String) :
    (literal value).toList = '"' :: (replaced value.toList ++ ['"']) ∧
      ∃ quoted, (literal value ++ following).toList = '"' :: quoted ∧
        quotedText? quoted = some (value.toList, following.toList) := by
  rw [String.toList_append, literal_toList, replaced_eq]
  refine ⟨rfl, _, ?_, quotedText?_escaped _ _⟩
  simp only [List.append_assoc, List.cons_append, List.nil_append]

/-- With the replacements in the other order the literal of a quote would end at that quote. -/
example : quotedText? (replaceWord ['\\'] ['\\', '\\'] (replaceWord ['"'] ['\\', '"'] ['"']) ++
    ['"']) = some (['\\'], ['"']) := by
  decide

end LoadScenario.Scenario
