import LoadScenario.Proofs.SetterCalls

/-!
# Texts that a script keeps

A script keeps a text by a call whose value is a literal. Two readers work on the call one after the
other: the first cuts the value off at the first closing parenthesis and takes the name as long as
it is a word, the second asks whether what was cut off is a literal. The text is kept exactly if the
first does not get in the way of the second. Up to a parenthesis in the text no closing quote has
been seen yet, so what is cut off there is never a literal, and a name that is no word is not found
at all.
-/

namespace LoadScenario

open Text

namespace Script

/-! ## Values that are literals -/

theorem literalText?_quoted (q : Quote) (text : String) :
    literalText? (String.ofList (q.quoted text.toList)) = some text := by
  have hread : literal anyLine (q.quoted text.toList ++ []) =
      some (text.toList.flatMap q.escape, []) := literal_quoted anyLine q nofun []
  rw [List.append_nil] at hread
  have hskip : skipBlank (q.quoted text.toList) = q.quoted text.toList :=
    skipBlank_cons q.isBlank_char _
  rw [literalText?, String.toList_ofList, hskip, hread]
  show some (String.ofList (withoutEscapes (text.toList.flatMap q.escape))) = some text
  rw [Quote.withoutEscapes_escaped, String.ofList_toList]

/-- What may stand between quotes does not close the literal. -/
theorem LiteralText.literalBody_eq_none {q : Quote} {oneLine : Bool} {body : List Char}
    (h : LiteralText q oneLine body) : literalBody q oneLine body = none := by
  induction h with
  | nil => rfl
  | plain hquote hslash hline _ ih =>
      rw [literalBody_plain hquote hslash hline, ih]
      rfl
  | pair hd _ ih =>
      rw [literalBody_pair hd, ih]
      rfl

/-- A literal that is cut off before its closing quote is none. -/
theorem literalText?_unclosed {body value : List Char} (h : LiteralText .double false body)
    (hvalue : value <+: '"' :: body) : literalText? (String.ofList value) = none := by
  have hliteral : literal anyLine (skipBlank value) = none := by
    cases value with
    | nil => rfl
    | cons c cs =>
        obtain ⟨rfl, behind, rfl⟩ := List.cons_prefix_cons.mp hvalue
        have hcs : literalBody .double false cs = none := by
          rw [Option.eq_none_iff_forall_ne_some]
          rintro ⟨inner, rest⟩ hread
          obtain ⟨rfl, hinner⟩ := literalBody_eq_some_iff.mp hread
          have hlonger := hinner.literalBody_append (rest ++ behind)
          rw [← List.cons_append, ← List.append_assoc, h.literalBody_eq_none] at hlonger
          cases hlonger
        rw [skipBlank_cons (by decide)]
        exact hcs
  rw [literalText?, String.toList_ofList, hliteral]

/-! ## A call that keeps a text -/

/-- A script that sets a variable to a text, and nothing else. -/
def textScript (f : SetterFunction) (name text : String) : String :=
  String.ofList ((plainCall f name (' ' :: Quote.double.quoted text.toList)).text ++ [';'])

example : textScript .global "note" "a \"b\\" =
    "postman.setGlobalVariable(\"note\", \"a \\\"b\\\\\");" := by decide

section

variable {f : SetterFunction} {name text : String}

theorem escaped_inside {cs : List Char} (hclosing : ')' ∉ cs) (hline : '\n' ∉ cs) :
    ∀ c ∈ cs.flatMap Quote.double.escape, c ≠ ')' ∧ c ≠ '\n' := by
  intro c hc
  obtain ⟨d, hd, hc⟩ := List.mem_flatMap.mp hc
  have hplain : c = '\\' ∨ c = d := by
    rw [Quote.escape] at hc
    split at hc
    · rwa [List.mem_cons, List.mem_singleton] at hc
    · exact .inr (List.mem_singleton.mp hc)
  rcases hplain with rfl | rfl
  · decide
  · exact ⟨fun heq => hclosing (heq ▸ hd), fun heq => hline (heq ▸ hd)⟩

/-- If nothing in the text ends the value early, the call is all that is found. -/
theorem setters_textScript (hname : ∀ c ∈ name.toList, isWord c) (htext : '\n' ∉ text.toList)
    (hclosing : ')' ∉ text.toList) : ∃ s, setters (textScript f name text) = [(0, s)] ∧
      s.name = name ∧ literalText? s.value = some text := by
  have hinside : ∀ c ∈ ' ' :: Quote.double.quoted text.toList, c ≠ ')' ∧ c ≠ '\n' := by
    intro c hc
    rw [List.mem_cons, Quote.quoted, List.mem_cons, List.mem_append, List.mem_singleton] at hc
    rcases hc with rfl | rfl | hc | rfl
    · decide
    · decide
    · exact escaped_inside hclosing htext c hc
    · decide
  have hliteral : literalText? (String.ofList (trim (' ' :: Quote.double.quoted text.toList))) =
      some text := by
    have hunpadded : Unpadded (Quote.double.quoted text.toList) :=
      unpadded_of_ends (by decide) (by decide) _
    rw [← trim_skipBlank, skipBlank_blank (by decide), trim_skipBlank, hunpadded.trim_eq,
      literalText?_quoted]
  have hcall := (readable_plainCall (f := f) hname hinside).setter_append none (fun _ => rfl) [';']
  refine ⟨(plainCall f name (' ' :: Quote.double.quoted text.toList)).setter none, ?_, rfl,
    hliteral⟩
  rw [setters, textScript, String.toList_ofList, pieces,
    piecesFrom_found (SetterCall.text_ne_nil _) hcall,
    piecesFrom_plain (setter_of_outside ⟨by decide, by decide⟩ ..)]
  rfl

/-- A script is also one of a call that is closed by a parenthesis in the text. -/
theorem textScript_eq_cut {inside behind : List Char}
    (h : text.toList = inside ++ ')' :: behind) : (textScript f name text).toList =
      (plainCall f name (' ' :: '"' :: inside.flatMap Quote.double.escape)).text ++
        (behind.flatMap Quote.double.escape ++ ['"', ')', ';']) := by
  have hescaped : text.toList.flatMap Quote.double.escape = inside.flatMap Quote.double.escape ++
      ')' :: behind.flatMap Quote.double.escape := by
    rw [h, List.flatMap_append, List.flatMap_cons]
    rfl
  have hvalue : ' ' :: Quote.double.quoted text.toList ++ [')', ';'] =
      ' ' :: '"' :: inside.flatMap Quote.double.escape ++
        ')' :: (behind.flatMap Quote.double.escape ++ ['"', ')', ';']) := by
    rw [Quote.quoted, hescaped]
    simp only [Quote.char, List.append_assoc, List.cons_append, List.nil_append]
  rw [textScript, String.toList_ofList, SetterCall.text_append, SetterCall.text_append]
  exact congrArg _ hvalue

/-- If the text has a closing parenthesis, the value of the first call is cut off there and is no
literal. -/
theorem setters_textScript_cut (hname : ∀ c ∈ name.toList, isWord c) (htext : '\n' ∉ text.toList)
    (hclosing : ')' ∈ text.toList) : ∃ s later,
      setters (textScript f name text) = (0, s) :: later ∧ literalText? s.value = none := by
  obtain ⟨inside, behind, hsplit, hinside⟩ := List.eq_append_cons_of_mem hclosing
  have hline : '\n' ∉ inside := by
    intro hmem
    rw [hsplit] at htext
    exact htext (List.mem_append_left _ hmem)
  have hcut : ∀ c ∈ ' ' :: '"' :: inside.flatMap Quote.double.escape, c ≠ ')' ∧ c ≠ '\n' := by
    rw [List.forall_mem_cons, List.forall_mem_cons]
    exact ⟨by decide, by decide, escaped_inside hinside hline⟩
  obtain ⟨jsonPath, rest, hfound⟩ := (readable_plainCall (f := f) hname hcut).setter_cases none
    (fun _ => rfl) (behind.flatMap Quote.double.escape ++ ['"', ')', ';'])
  rw [← textScript_eq_cut hsplit] at hfound
  obtain ⟨later, hlater⟩ := setters_of_setter hfound
  refine ⟨_, later, hlater, ?_⟩
  exact literalText?_unclosed (Quote.double.literalText_escaped false nofun) (isPrefix_trim _)

end

end Script

namespace RequestRecord

open Script

/-- A script that sets a variable to a text has the text kept under that name, and no warning is
given, exactly if the name is a word and the text has no closing parenthesis. -/
theorem text_captured_iff {r : RequestRecord} {f : SetterFunction} {name text : String}
    (hscript : r.tests = some (textScript f name text)) (htext : '\n' ∉ text.toList) :
    (r.request.checks.captures = [.literal name (translate text)] ∧ r.scriptWarnings = []) ↔
      (∀ c ∈ name.toList, isWord c) ∧ ')' ∉ text.toList := by
  have hr : r.script = textScript f name text := by rw [script, hscript, Option.getD_some]
  constructor
  · rintro ⟨hcaptures, hwarnings⟩
    have hname : ∀ c ∈ name.toList, isWord c := by
      have hmem : Capture.literal name (translate text) ∈ r.request.checks.captures := by
        rw [hcaptures]
        exact List.mem_cons_self
      obtain ⟨⟨offset, s⟩, hs, hcapture⟩ := List.mem_filterMap.mp hmem
      have hs_name : name = s.name := name_of_captureOf? hcapture
      rw [hs_name]
      exact isWord_of_mem_setters hs
    refine ⟨hname, fun hclosing => ?_⟩
    obtain ⟨s, later, hsetters, hvalue⟩ := setters_textScript_cut (f := f) hname htext hclosing
    rw [← hr] at hsetters
    -- the first call gives a warning or is not kept as a text
    cases hcapture : captureOf? r.script 0 s with
    | none =>
        refine scriptWarnings_eq_nil_iff.mp hwarnings (0, s) ?_ hcapture
        rw [hsetters]
        exact List.mem_cons_self
    | some c =>
        rw [captures_cons hsetters hcapture] at hcaptures
        obtain ⟨rfl, -⟩ := List.cons.inj hcaptures
        obtain ⟨_, hliteral, -⟩ | ⟨_, -, heq⟩ := captureOf?_cases hcapture
        · rw [hvalue] at hliteral
          cases hliteral
        · cases heq
  · rintro ⟨hname, hclosing⟩
    obtain ⟨s, hsetters, rfl, hvalue⟩ := setters_textScript (f := f) hname htext hclosing
    rw [← hr] at hsetters
    have hcapture := captureOf?_text r.script 0 hvalue
    refine ⟨captures_cons hsetters hcapture, scriptWarnings_eq_nil_iff.mpr ?_⟩
    rw [hsetters, List.forall_mem_singleton, hcapture]
    exact Option.some_ne_none _

theorem text_captured_quoting :
    (scripted (textScript .global "note_1" "say \"{{word}}\\")).request.checks.captures =
        [.literal "note_1" "say \"${word}\\"] ∧
      (scripted (textScript .global "note_1" "say \"{{word}}\\")).scriptWarnings = [] := by
  have hkept := text_captured_iff
    (r := scripted (textScript .global "note_1" "say \"{{word}}\\")) rfl (by decide)
  have htranslate : translate "say \"{{word}}\\" = "say \"${word}\\" := by decide
  rw [htranslate] at hkept
  exact hkept.mpr ⟨by decide, by decide⟩

/-- A parenthesis in the text and a name that is no word: the one loses the text and warns, the
other loses it in silence. -/
theorem text_lost :
    ((scripted (textScript .environment "note" ":)")).request.checks.captures = [] ∧
      (scripted (textScript .environment "note" ":)")).scriptWarnings =
        [.unreadableVariable "Order" "note"]) ∧
    (scripted (textScript .environment "user-id" "7")).request.checks.captures = [] ∧
      (scripted (textScript .environment "user-id" "7")).scriptWarnings = [] := by
  decide

end RequestRecord

end LoadScenario
