import LoadScenario.Proofs.InferredPlaces
import LoadScenario.Proofs.SelfDelimiting
import LoadScenario.Proofs.TextCaptures

/-!
# Values that are one literal

The value of a variable is kept as a text if it is one literal. What that means is said here without
the reader: white space, a quote, characters and pairs of a backslash and the character that it
takes, the same quote, and white space again. Neither the backslash nor the quote is a character of
the first kind, so that it shows where a character, a pair and the literal end, and there is one way
to read a value (`source_injective`). Therefore the closing quote is where the reader finds it, and
whatever stands behind it that is not white space makes the value something else. What stands before
the opening quote does so as well, since a quote inside of a literal has its backslash right in
front of it (`LiteralText.getLast?_of_quote`).
-/

namespace LoadScenario.Script

open Text

/-! ## Between the quotes -/

/-- How a character is written between quotes: as it is, unless it is a quote of the same kind or a
backslash, or behind a backslash, unless it is a newline. -/
inductive Spelling (q : Quote) where
  | plain (c : Char) (ne_quote : c ≠ q.char) (ne_backslash : c ≠ '\\')
  | taken (c : Char) (ne_newline : c ≠ '\n')

namespace Spelling

variable {q : Quote}

def source : Spelling q → List Char
  | plain c _ _ => [c]
  | taken c _ => ['\\', c]

/-- The character that is meant. -/
def char : Spelling q → Char
  | plain c _ _ => c
  | taken c _ => c

theorem source_selfDelimiting (q : Quote) : SelfDelimiting (source (q := q)) := by
  intro s s' x y h
  cases s with
  | plain c hquote hslash =>
      cases s' with
      | plain c' _ _ =>
          obtain ⟨rfl, hrest⟩ := List.cons.inj h
          exact ⟨rfl, hrest⟩
      | taken c' _ => exact absurd (List.head_eq_of_cons_eq h) hslash
  | taken c hline =>
      cases s' with
      | plain c' _ hslash => exact absurd (List.head_eq_of_cons_eq h).symm hslash
      | taken c' _ =>
          obtain ⟨rfl, hrest⟩ := List.cons.inj (List.tail_eq_of_cons_eq h)
          exact ⟨rfl, hrest⟩

theorem source_append_ne (s : Spelling q) (x y : List Char) :
    s.source ++ x ≠ [q.char] ++ y := by
  intro h
  cases s with
  | plain c hquote _ => exact hquote (List.head_eq_of_cons_eq h)
  | taken c _ => exact q.char_ne_backslash (List.head_eq_of_cons_eq h).symm

/-- Up to the first quote that is not taken, a text is spelled in one way. -/
theorem content_selfDelimiting (q : Quote) :
    SelfDelimiting fun content : List (Spelling q) => content.flatMap source ++ [q.char] :=
  (source_selfDelimiting q).list source_append_ne

theorem literalText_source (content : List (Spelling q)) :
    LiteralText q false (content.flatMap source) := by
  induction content with
  | nil => exact .nil
  | cons s content ih =>
      cases s with
      | plain c hquote hslash => exact .plain hquote hslash nofun ih
      | taken c hline => exact .pair hline ih

theorem exists_of_literalText {body : List Char} (h : LiteralText q false body) :
    ∃ content : List (Spelling q), content.flatMap source = body := by
  induction h with
  | nil => exact ⟨[], rfl⟩
  | @plain c cs hquote hslash _ _ ih =>
      obtain ⟨content, rfl⟩ := ih
      exact ⟨.plain c hquote hslash :: content, rfl⟩
  | @pair d cs hline _ ih =>
      obtain ⟨content, rfl⟩ := ih
      exact ⟨.taken d hline :: content, rfl⟩

/-- Taking escapes away gives each character that is meant. -/
theorem withoutEscapes_source (content : List (Spelling q)) :
    withoutEscapes (content.flatMap source) = content.map char := by
  induction content with
  | nil => rfl
  | cons s content ih =>
      rw [List.flatMap_cons, List.map_cons, ← ih]
      cases s with
      | plain c _ hslash => exact withoutEscapes_plain hslash _
      | taken c hline => exact withoutEscapes_pair hline _

end Spelling

/-- Between the quotes, a quote stands right behind a backslash. -/
theorem LiteralText.getLast?_of_quote {q : Quote} {oneLine : Bool} {front back : List Char}
    (h : LiteralText q oneLine (front ++ q.char :: back)) : front.getLast? = some '\\' := by
  generalize hbody : front ++ q.char :: back = body at h
  induction h generalizing front with
  | nil => cases front <;> cases hbody
  | plain hquote _ _ _ ih =>
      cases front with
      | nil => exact absurd (List.head_eq_of_cons_eq hbody).symm hquote
      | cons c front =>
          rw [List.getLast?_cons, ih (List.tail_eq_of_cons_eq hbody)]
          rfl
  | pair _ _ ih =>
      match front with
      | [] => exact absurd (List.head_eq_of_cons_eq hbody) q.char_ne_backslash
      | [c] =>
          rw [List.head_eq_of_cons_eq hbody]
          rfl
      | c :: d :: front =>
          have hrest := List.tail_eq_of_cons_eq (List.tail_eq_of_cons_eq hbody)
          rw [List.getLast?_cons, List.getLast?_cons, ih hrest]
          rfl

/-! ## Values that begin with a literal -/

/-- A way to read a value as one that begins with a literal: the white space before it, its quote,
what stands between the quotes, and what is behind it. -/
structure LiteralReading where
  gap : List Char
  quote : Quote
  content : List (Spelling quote)
  behind : List Char
  isBlank_gap : ∀ c ∈ gap, isBlank c

namespace LiteralReading

def source (r : LiteralReading) : List Char :=
  r.gap ++ r.quote.char :: (r.content.flatMap Spelling.source ++ r.quote.char :: r.behind)

/-- The text that the literal stands for. -/
def text (r : LiteralReading) : String := String.ofList (r.content.map Spelling.char)

/-- Nothing but white space is behind the literal. -/
def Whole (r : LiteralReading) : Prop := ∀ c ∈ r.behind, isBlank c

variable {r : LiteralReading} {value : String}

theorem skipBlank_source (r : LiteralReading) : skipBlank r.source =
    r.quote.char :: (r.content.flatMap Spelling.source ++ r.quote.char :: r.behind) :=
  skipBlank_gap r.isBlank_gap r.quote.isBlank_char _

/-- There is one way at most to read a value. -/
theorem source_injective : Function.Injective source := by
  intro r r' h
  have hskipped := congrArg skipBlank h
  rw [skipBlank_source, skipBlank_source] at hskipped
  obtain ⟨hchar, hbehind⟩ := List.cons.inj hskipped
  obtain ⟨gap, q, content, behind, _⟩ := r
  obtain ⟨gap', q', content', behind', _⟩ := r'
  obtain rfl : q = q' := Option.some.inj <| by
    rw [← Quote.ofChar?_char q, ← Quote.ofChar?_char q']
    exact congrArg Quote.ofChar? hchar
  rw [List.append_cons, List.append_cons (content'.flatMap _)] at hbehind
  obtain ⟨rfl, rfl⟩ := Spelling.content_selfDelimiting q _ _ _ _ hbehind
  obtain rfl := List.append_cancel_right h
  rfl

/-- What the reader makes of a value that begins with a literal. -/
theorem literalText?_source (h : r.source = value.toList) :
    literalText? value = if (skipBlank r.behind).isEmpty then some r.text else none := by
  have hread := (Spelling.literalText_source r.content).literalBody_append r.behind
  have hliteral : literal anyLine (skipBlank value.toList) =
      some (r.content.flatMap Spelling.source, r.behind) := by
    rw [← h, skipBlank_source, literal, Quote.ofChar?_char]
    exact hread
  rw [literalText?, hliteral, text, ← Spelling.withoutEscapes_source]

theorem whole_iff : r.Whole ↔ (skipBlank r.behind).isEmpty := by
  rw [List.isEmpty_iff, skipBlank_eq_nil_iff]
  rfl

theorem exists_of_literalText? {w : String} (h : literalText? value = some w) :
    ∃ r : LiteralReading, r.Whole ∧ r.source = value.toList ∧ r.text = w := by
  obtain ⟨gap, hgap, hvalue, -⟩ := exists_gap value.toList
  cases hliteral : literal anyLine (skipBlank value.toList) with
  | none =>
      rw [literalText?, hliteral] at h
      cases h
  | some read =>
      obtain ⟨body, behind⟩ := read
      obtain ⟨q, hskipped, hbody⟩ := literal_eq_some_iff.mp hliteral
      obtain ⟨content, rfl⟩ := Spelling.exists_of_literalText hbody
      rw [hskipped] at hvalue
      let r : LiteralReading := ⟨gap, q, content, behind, hgap⟩
      have hr : r.source = value.toList := hvalue.symm
      rw [literalText?_source hr] at h
      split at h
      next hwhole => exact ⟨r, whole_iff.mpr hwhole, hr, Option.some.inj h⟩
      next => cases h

theorem literalText?_eq_some_iff {w : String} : literalText? value = some w ↔
    ∃ r : LiteralReading, r.Whole ∧ r.source = value.toList ∧ r.text = w := by
  refine ⟨exists_of_literalText?, ?_⟩
  rintro ⟨r, hwhole, hr, rfl⟩
  rw [literalText?_source hr, if_pos (whole_iff.mp hwhole)]

/-! ## Values that are something else -/

theorem literalText?_of_not_whole (h : r.source = value.toList) (hwhole : ¬ r.Whole) :
    literalText? value = none := by
  rw [literalText?_source h, if_neg (whole_iff.not.mp hwhole)]

theorem literalText?_of_head (h : ∀ q : Quote, (skipBlank value.toList).head? ≠ some q.char) :
    literalText? value = none := by
  rw [Option.eq_none_iff_forall_ne_some]
  intro w hw
  obtain ⟨r, -, hr, -⟩ := exists_of_literalText? hw
  refine h r.quote ?_
  rw [← hr, skipBlank_source]
  rfl

theorem literalText?_of_readsMember {name path : List Char}
    (h : ReadsMember name path value.toList) : literalText? value = none := by
  obtain ⟨gap, behind, hgap, -, hvalue⟩ := h.text
  obtain ⟨c, cs, rfl, hc, -⟩ := h.isVariable
  refine literalText?_of_head fun q hquote => ?_
  rw [hvalue, List.cons_append, skipBlank_gap hgap (isBlank_of_startsName hc)] at hquote
  obtain rfl := Option.some.inj hquote
  cases q <;> exact absurd hc (by decide)

theorem trimEnd_append_source (h : r.Whole) (before : List Char) :
    trimEnd (before ++ r.source) =
      before ++ r.gap ++ r.quote.char :: r.content.flatMap Spelling.source ++ [r.quote.char] := by
  have hsource : before ++ r.source =
      before ++ r.gap ++ r.quote.char :: r.content.flatMap Spelling.source ++
        r.quote.char :: r.behind := by
    simp only [source, List.append_assoc, List.cons_append]
  rw [hsource, trimEnd_append_cons r.quote.isBlank_char, trimEnd_of_blank h]

/-- A literal that something stands before is not all of the value, either: its opening quote would
have to be taken by a backslash. -/
theorem literalText?_of_before {before : List Char} (h : before ++ r.source = value.toList)
    (hwhole : r.Whole) (hbefore : ¬ ∀ c ∈ before, isBlank c)
    (hslash : before.getLast? ≠ some '\\') : literalText? value = none := by
  rw [Option.eq_none_iff_forall_ne_some]
  intro w hw
  obtain ⟨l, hlwhole, hl, -⟩ := exists_of_literalText? hw
  have htrimmed := congrArg trimEnd (hl.trans h.symm)
  rw [← List.nil_append l.source, trimEnd_append_source hlwhole, trimEnd_append_source hwhole,
    List.nil_append] at htrimmed
  -- Both end with the same quote, so that the opening quote of the one is inside of the other.
  obtain ⟨hfronts, hquotes⟩ := List.append_inj' htrimmed rfl
  have hquote := List.head_eq_of_cons_eq hquotes
  have hinside : ∀ more, l.gap ≠ before ++ r.gap ++ more := by
    intro more hgap
    refine hbefore fun c hc => l.isBlank_gap c ?_
    rw [hgap]
    exact List.mem_append_left _ (List.mem_append_left _ hc)
  obtain ⟨inner, hgap, hbody⟩ | ⟨more, hgap, -⟩ := List.append_eq_append_iff.mp hfronts
  · cases inner with
    | nil =>
        rw [List.append_nil] at hgap
        exact hinside [] (by rw [hgap, List.append_nil])
    | cons c inner =>
        have hcontent := Spelling.literalText_source l.content
        rw [List.tail_eq_of_cons_eq hbody, ← hquote] at hcontent
        have hlast : (before ++ r.gap).getLast? = some '\\' := by
          rw [hgap, List.getLast?_append, List.getLast?_cons, hcontent.getLast?_of_quote]
          rfl
        rw [List.getLast?_append] at hlast
        cases hend : r.gap.getLast? with
        | none =>
            rw [hend] at hlast
            exact hslash hlast
        | some d =>
            rw [hend] at hlast
            obtain rfl := Option.some.inj hlast
            exact absurd (r.isBlank_gap _ (List.mem_of_getLast? hend)) (by decide)
  · exact hinside more hgap

end LiteralReading

/-- A value is taken for a literal if and only if it is one, white space around it apart: there is a
reading of all of it, and the text is what the characters between the quotes stand for. There is one
reading at most. So nothing is a literal that goes on behind the closing quote, be it with an
operand or up to another quote, or in which something stands before the opening quote, or that
begins in any other way, as the access to a member does. And whichever quote a text is written with,
it is read back. -/
theorem literalText?_exact (value : String) :
    (∀ w, literalText? value = some w ↔
      ∃ r : LiteralReading, r.Whole ∧ r.source = value.toList ∧ r.text = w) ∧
    (∀ r r' : LiteralReading, r.source = value.toList → r'.source = value.toList → r = r') ∧
    (∀ r : LiteralReading, r.source = value.toList →
      (∃ c ∈ r.behind, isBlank c = false) → literalText? value = none) ∧
    (∀ (before : List Char) (r : LiteralReading), before ++ r.source = value.toList → r.Whole →
      (∃ c ∈ before, isBlank c = false) → before.getLast? ≠ some '\\' →
      literalText? value = none) ∧
    ((∀ q : Quote, (skipBlank value.toList).head? ≠ some q.char) → literalText? value = none) ∧
    (∀ name path, ReadsMember name path value.toList → literalText? value = none) ∧
    ∀ q : Quote, literalText? (String.ofList (q.quoted value.toList)) = some value := by
  have hsome : ∀ {cs : List Char}, (∃ c ∈ cs, isBlank c = false) → ¬ ∀ c ∈ cs, isBlank c := by
    rintro cs ⟨c, hc, hplain⟩ hall
    rw [hall c hc] at hplain
    cases hplain
  refine ⟨fun w => LiteralReading.literalText?_eq_some_iff, ?_, ?_, ?_,
    LiteralReading.literalText?_of_head,
    fun name path => LiteralReading.literalText?_of_readsMember,
    fun q => literalText?_quoted q value⟩
  · intro r r' hr hr'
    exact LiteralReading.source_injective (hr.trans hr'.symm)
  · intro r hr hbehind
    exact LiteralReading.literalText?_of_not_whole hr (hsome hbehind)
  · intro before r hr hwhole hbefore hslash
    exact LiteralReading.literalText?_of_before hr hwhole (hsome hbefore) hslash

/-- Backslashes right before a quote, a literal over two lines, and values that are more than a
literal. -/
example : literalText? "\t'a\\\\' " = some "a\\" ∧ literalText? "'a\\\\\\'" = none ∧
    literalText? "\x60a\n\\\x60b\x60" = some "a\n\x60b" ∧ literalText? "'a\\\nb'" = none ∧
    literalText? "'a' + b" = none ∧ literalText? "a + 'b'" = none ∧
    literalText? "\"a\"b\"" = none ∧ literalText? "'a'.length" = none := by
  decide

end LoadScenario.Script
