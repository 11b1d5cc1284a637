import LoadScenario.Json.Printer
import LoadScenario.Proofs.NumberReading

/-!
# The tokens of a written value

Cutting a text into tokens is the first half of reading it, and the only half that looks at
characters. What has to be shown of it is that a written value is cut where it was put together:
each string and each number is one token, whatever characters stand in the string, and the white
space that the writer puts between the parts leaves no trace. That leaves `tokensOf`, the tokens of
a value, in which nothing is said of white space or escapes any more.

`Spells` says that a text is cut into certain tokens. It is stated from the end of the text to its
beginning, as the proofs go, and it does not count tokens, so that nothing here has to carry the
bound of the reader along.
-/

namespace LoadScenario.Json

/-! ## Strings -/

theorem hexDigit?_hexDigit : ∀ n < 16, hexDigit? (hexDigit n) = some n := by decide

theorem hex4?_control {n : Nat} (hn : n < 0x20) :
    hex4? '0' '0' (hexDigit (n / 16)) (hexDigit (n % 16)) = some n := by
  have hzero : hexDigit? '0' = some 0 := by decide
  rw [hex4?, hzero, hexDigit?_hexDigit _ (by omega), hexDigit?_hexDigit _ (by omega)]
  simp only [bind, Option.bind_some, pure]
  congr 1
  omega

/-- A control character is no half of a surrogate pair. -/
theorem pushUnit_control {c : Char} (hc : c.toNat < 0x20) (before : List Char) :
    Decoded.pushUnit c.toNat (.text before none) = .text (c :: before) none := by
  have hhigh : isHighSurrogate c.toNat = false := by simp [isHighSurrogate]; omega
  have hlow : isLowSurrogate c.toNat = false := by simp [isLowSurrogate]; omega
  simp [Decoded.pushUnit, hhigh, hlow]

theorem stringBody_escapeChar (c : Char) (before cs : List Char) :
    stringBody (.text before none) (escapeChar c ++ cs) =
      stringBody (.text (c :: before) none) cs := by
  rw [escapeChar]
  -- The seven characters with an escape of their own.
  iterate 7 (split; next h => subst h; rfl)
  split
  · next hcontrol =>
      rw [List.cons_append, List.cons_append, List.cons_append, List.cons_append,
        List.cons_append, List.cons_append, List.nil_append, stringBody, hex4?_control hcontrol]
      simp only [pushUnit_control hcontrol]
  · next hquote hbackslash _ _ _ _ _ hcontrol =>
      have hplain : isPlain c = true := by simp [isPlain]; omega
      rw [List.singleton_append, stringBody]
      · simp [hplain, hbackslash, Decoded.push]
      · exact hquote
      · intro _ _ _ _ _ h
        exact absurd h hbackslash
      · intro _ _ h
        exact absurd h hbackslash

theorem stringBody_escaped (s before cs : List Char) :
    stringBody (.text before none) (s.flatMap escapeChar ++ '"' :: cs) =
      some (some (String.ofList (before.reverse ++ s)), cs) := by
  induction s generalizing before with
  | nil =>
      rw [List.flatMap_nil, List.nil_append, List.append_nil]
      rfl
  | cons c s ih =>
      rw [List.flatMap_cons, List.append_assoc, stringBody_escapeChar, ih, List.reverse_cons,
        List.append_assoc, List.singleton_append]

/-! ## Single tokens -/

theorem token?_quoteText (s : Json.Text) (cs : List Char) :
    token? (quoteText s ++ cs) = some (.text s, cs) := by
  cases s with
  | none => rfl
  | some s =>
      rw [quoteText, quote, List.cons_append, List.append_assoc, List.singleton_append, token?,
        Decoded.start, stringBody_escaped, List.reverse_nil, List.nil_append, String.ofList_toList]
      rfl

theorem token?_number {cs n r : List Char} (h : number? cs = some (n, r)) :
    token? cs = some (.atom (.number (String.ofList n)), r) := by
  obtain ⟨c, cs', rfl, hc⟩ := head_of_number? h
  have hne : ∀ d : Char, d ≠ '-' ∧ d.isDigit = false → c ≠ d := by
    rintro d ⟨hsign, hdigit⟩ rfl
    rcases hc with rfl | hc
    · exact hsign rfl
    · rw [hdigit] at hc
      cases hc
  have hn := hne 'n' (by decide)
  have ht := hne 't' (by decide)
  have hf := hne 'f' (by decide)
  rw [token?]
  · split
    · next answer hkeyword => simp [keywords, Text.expect, hn, ht, hf] at hkeyword
    · rw [h]
      rfl
  · intro heq
    cases heq
  all_goals
    intro _ heq
    exact hne _ (by decide) (List.cons.inj heq).1

/-! ## Texts -/

/-- The text is cut into the tokens. -/
inductive Spells : List Char → List Token → Prop
  | nothing : Spells [] []
  | space {c : Char} {cs : List Char} {ts : List Token} (hc : isSpace c) (h : Spells cs ts) :
      Spells (c :: cs) ts
  | token (c : Char) (cs : List Char) {rest : List Char} {t : Token} {ts : List Token}
      (hc : isSpace c = false) (ht : token? (c :: (cs ++ rest)) = some (t, rest))
      (h : Spells rest ts) : Spells (c :: (cs ++ rest)) (t :: ts)

variable {cs : List Char} {t : Token} {ts : List Token}

theorem Spells.length_le (h : Spells cs ts) : ts.length ≤ cs.length := by
  induction h with
  | nothing => exact Nat.le_refl _
  | space _ _ ih => exact Nat.le_succ_of_le ih
  | token _ _ _ _ _ ih =>
      simp only [List.length_cons, List.length_append]
      omega

theorem Spells.tokensFrom_eq (h : Spells cs ts) {bound : Nat} (hbound : ts.length < bound)
    (before : List Token) : tokensFrom bound before cs = some (before.reverse ++ ts) := by
  induction h generalizing bound before with
  | nothing =>
      cases bound with
      | zero => cases hbound
      | succ bound =>
          rw [List.append_nil]
          rfl
  | @space c cs ts hc h ih =>
      rw [← ih hbound before]
      cases bound with
      | zero => rfl
      | succ bound => simp only [tokensFrom, List.dropWhile_cons, hc, if_true]
  | @token c cs rest t ts hc ht h ih =>
      cases bound with
      | zero => cases hbound
      | succ bound =>
          have hlater := ih (Nat.lt_of_succ_lt_succ hbound) (t :: before)
          rw [List.reverse_cons, List.append_assoc, List.singleton_append] at hlater
          simp only [tokensFrom, List.dropWhile_cons, hc, Bool.false_eq_true, if_false, ht]
          exact hlater

theorem Spells.tokens?_eq (h : Spells cs ts) : tokens? cs = some ts :=
  h.tokensFrom_eq (Nat.lt_succ_of_le h.length_le) []

theorem Spells.spaces {blank : List Char} (hblank : ∀ c ∈ blank, isSpace c) (h : Spells cs ts) :
    Spells (blank ++ cs) ts := by
  induction blank with
  | nil => exact h
  | cons c blank ih =>
      obtain ⟨hc, hblank⟩ := List.forall_mem_cons.mp hblank
      exact .space hc (ih hblank)

/-- A mark of one character is a token wherever it stands. -/
theorem Spells.mark {c : Char} (hc : isSpace c = false)
    (ht : token? (c :: cs) = some (t, cs)) (h : Spells cs ts) : Spells (c :: cs) (t :: ts) :=
  .token c [] hc ht h

/-! ## Written values -/

/-- The spacing puts nothing but white space between the parts of a value, and a colon behind each
key. -/
structure Spacing.Blank (spacing : Spacing) : Prop where
  lineBreak : ∀ depth, ∀ c ∈ spacing.lineBreak depth, isSpace c
  colon : ∃ blank, spacing.colon = ':' :: blank ∧ ∀ c ∈ blank, isSpace c

theorem compact_blank : Spacing.compact.Blank := ⟨nofun, [], rfl, nofun⟩

theorem indented_blank : Spacing.indented.Blank := by
  refine ⟨fun depth c hc => ?_, [' '], rfl, fun c hc => ?_⟩
  · rcases List.mem_cons.mp hc with rfl | hc
    · rfl
    · obtain rfl := List.eq_of_mem_replicate hc
      rfl
  · obtain rfl := List.mem_singleton.mp hc
    rfl

mutual

/-- The tokens of a value. -/
def tokensOf : Json → List Token
  | .string s => [.text s]
  | .array [] => [.openArray, .closeArray]
  | .array (item :: rest) => .openArray :: (tokensOf item ++ itemTokens rest ++ [.closeArray])
  | .object [] => [.openObject, .closeObject]
  | .object ((key, value) :: rest) =>
    .openObject :: .text key :: .colon :: (tokensOf value ++ memberTokens rest ++ [.closeObject])
  | value => [.atom value]

/-- The tokens of the items behind the first. -/
def itemTokens : List Json → List Token
  | [] => []
  | item :: rest => .comma :: (tokensOf item ++ itemTokens rest)

/-- The tokens of the members behind the first. -/
def memberTokens : List (Json.Text × Json) → List Token
  | [] => []
  | (key, value) :: rest => .comma :: .text key :: .colon :: (tokensOf value ++ memberTokens rest)

end

mutual

/-- Each number in the value is written as a number. -/
def Numeric : Json → Prop
  | .number digits => number? digits.toList = some (digits.toList, [])
  | .array items => NumericItems items
  | .object members => NumericMembers members
  | _ => True

def NumericItems : List Json → Prop
  | [] => True
  | item :: rest => Numeric item ∧ NumericItems rest

def NumericMembers : List (Json.Text × Json) → Prop
  | [] => True
  | (_, value) :: rest => Numeric value ∧ NumericMembers rest

end

theorem delimits_cons {c : Char} (hc : c.isDigit = false ∧ c ≠ '.' ∧ c ≠ 'e' ∧ c ≠ 'E')
    (cs : List Char) : Delimits (c :: cs) := by
  intro d hd
  obtain rfl := Option.some.inj hd
  exact hc

theorem delimits_blank {blank : List Char} (hblank : ∀ c ∈ blank, isSpace c)
    (hcs : Delimits cs) : Delimits (blank ++ cs) := by
  cases blank with
  | nil => exact hcs
  | cons c blank =>
      refine delimits_cons ?_ _
      have hc := hblank c List.mem_cons_self
      simp only [isSpace, Bool.or_eq_true, decide_eq_true_eq] at hc
      rcases hc with ((rfl | rfl) | rfl) | rfl <;> decide

theorem Spells.quoteText (s : Json.Text) (h : Spells cs ts) :
    Spells (quoteText s ++ cs) (.text s :: ts) := by
  have ht := token?_quoteText s cs
  cases s <;> exact .token _ _ (by decide) ht h

theorem Spells.number {digits : String} (hdigits : number? digits.toList = some (digits.toList, []))
    (hcs : Delimits cs) (h : Spells cs ts) :
    Spells (digits.toList ++ cs) (.atom (.number digits) :: ts) := by
  have ht := token?_number (number?_append hcs hdigits)
  rw [String.ofList_toList] at ht
  obtain ⟨c, ds, hd, hc⟩ := head_of_number? hdigits
  have hspace : isSpace c = false := by
    rcases hc with rfl | hc
    · rfl
    · simp only [isSpace, Bool.or_eq_false_iff, decide_eq_false_iff_not]
      refine ⟨⟨⟨?_, ?_⟩, ?_⟩, ?_⟩ <;> (rintro rfl; cases hc)
  rw [hd] at ht ⊢
  exact .token _ _ hspace ht h

variable {spacing : Spacing}

/-- A key with its colon, in front of whatever spells the value. -/
theorem Spells.key (hspacing : spacing.Blank) (key : Json.Text) (h : Spells cs ts) :
    Spells (Json.quoteText key ++ (spacing.colon ++ cs)) (.text key :: .colon :: ts) := by
  obtain ⟨blank, hcolon, hblank⟩ := hspacing.colon
  rw [hcolon]
  exact .quoteText key (.mark (by decide) rfl (h.spaces hblank))

/-- What follows the items of an array or the members of an object begins with a bracket or with
white space. -/
theorem delimits_closing (hspacing : spacing.Blank) (depth : Nat) {c : Char}
    (hc : c = ']' ∨ c = '\x7d') (cs : List Char) :
    Delimits (spacing.lineBreak depth ++ c :: cs) := by
  refine delimits_blank (hspacing.lineBreak depth) (delimits_cons ?_ _)
  rcases hc with rfl | rfl <;> decide

theorem delimits_writeItems (depth : Nat) (rest : List Json) (hcs : Delimits cs) :
    Delimits (writeItems spacing depth rest ++ cs) := by
  cases rest with
  | nil => exact hcs
  | cons item rest => exact delimits_cons (by decide) _

theorem delimits_writeMembers (depth : Nat) (rest : List (Json.Text × Json)) (hcs : Delimits cs) :
    Delimits (writeMembers spacing depth rest ++ cs) := by
  cases rest with
  | nil => exact hcs
  | cons member rest => exact delimits_cons (by decide) _

mutual

/-- A written value is cut into its tokens, whatever its text is followed by. -/
theorem spells_write (hspacing : spacing.Blank) (depth : Nat) (j : Json) {cs : List Char}
    {ts : List Token} (hj : j.Numeric) (hcs : Delimits cs) (h : Spells cs ts) :
    Spells (write spacing depth j ++ cs) (tokensOf j ++ ts) := by
  match j with
  | .null => exact .token 'n' "ull".toList (by decide) rfl h
  | .bool true => exact .token 't' "rue".toList (by decide) rfl h
  | .bool false => exact .token 'f' "alse".toList (by decide) rfl h
  | .number digits => exact .number hj hcs h
  | .string s => exact .quoteText s h
  | .array [] => exact .mark (by decide) rfl (.mark (by decide) rfl h)
  | .object [] => exact .mark (by decide) rfl (.mark (by decide) rfl h)
  | .array (item :: rest) =>
      have hclosing := delimits_closing hspacing depth (.inl rfl) cs
      have hend : Spells (']' :: cs) (.closeArray :: ts) := .mark (by decide) rfl h
      have hrest := spells_writeItems hspacing (depth + 1) rest hj.2 hclosing
        (hend.spaces (hspacing.lineBreak depth))
      have hitem := spells_write hspacing (depth + 1) item hj.1
        (delimits_writeItems (depth + 1) rest hclosing) hrest
      have hbegin : Spells ('[' :: _) (.openArray :: _) :=
        .mark (by decide) rfl (hitem.spaces (hspacing.lineBreak (depth + 1)))
      rw [write, tokensOf]
      simp only [List.cons_append, List.append_assoc, List.nil_append]
      exact hbegin
  | .object ((key, value) :: rest) =>
      have hclosing := delimits_closing hspacing depth (.inr rfl) cs
      have hend : Spells ('\x7d' :: cs) (.closeObject :: ts) := .mark (by decide) rfl h
      have hrest := spells_writeMembers hspacing (depth + 1) rest hj.2 hclosing
        (hend.spaces (hspacing.lineBreak depth))
      have hvalue := spells_write hspacing (depth + 1) value hj.1
        (delimits_writeMembers (depth + 1) rest hclosing) hrest
      have hbegin : Spells ('\x7b' :: _) (.openObject :: _) :=
        .mark (by decide) rfl ((hvalue.key hspacing key).spaces (hspacing.lineBreak (depth + 1)))
      rw [write, tokensOf]
      simp only [List.cons_append, List.append_assoc, List.nil_append]
      exact hbegin

theorem spells_writeItems (hspacing : spacing.Blank) (depth : Nat) (rest : List Json)
    {cs : List Char} {ts : List Token} (hj : NumericItems rest) (hcs : Delimits cs)
    (h : Spells cs ts) :
    Spells (writeItems spacing depth rest ++ cs) (itemTokens rest ++ ts) := by
  match rest with
  | [] => exact h
  | item :: rest =>
      have hrest := spells_writeItems hspacing depth rest hj.2 hcs h
      have hitem := spells_write hspacing depth item hj.1 (delimits_writeItems depth rest hcs) hrest
      have hbegin : Spells (',' :: _) (.comma :: _) :=
        .mark (by decide) rfl (hitem.spaces (hspacing.lineBreak depth))
      rw [writeItems, itemTokens]
      simp only [List.cons_append, List.append_assoc]
      exact hbegin

theorem spells_writeMembers (hspacing : spacing.Blank) (depth : Nat)
    (rest : List (Json.Text × Json)) {cs : List Char} {ts : List Token}
    (hj : NumericMembers rest) (hcs : Delimits cs) (h : Spells cs ts) :
    Spells (writeMembers spacing depth rest ++ cs) (memberTokens rest ++ ts) := by
  match rest with
  | [] => exact h
  | (key, value) :: rest =>
      have hrest := spells_writeMembers hspacing depth rest hj.2 hcs h
      have hvalue := spells_write hspacing depth value hj.1
        (delimits_writeMembers depth rest hcs) hrest
      have hbegin : Spells (',' :: _) (.comma :: _) :=
        .mark (by decide) rfl ((hvalue.key hspacing key).spaces (hspacing.lineBreak depth))
      rw [writeMembers, memberTokens]
      simp only [List.cons_append, List.append_assoc]
      exact hbegin

end

/-- White space may follow a written value. -/
theorem tokens?_write_append (hspacing : spacing.Blank) (depth : Nat) {j : Json} (hj : j.Numeric)
    {blank : List Char} (hblank : ∀ c ∈ blank, isSpace c) :
    tokens? (write spacing depth j ++ blank) = some (tokensOf j) := by
  have hdelimits := delimits_blank hblank delimits_nil
  have hend := Spells.nothing.spaces hblank
  rw [List.append_nil] at hdelimits hend
  have h := (spells_write hspacing depth j hj hdelimits hend).tokens?_eq
  rwa [List.append_nil] at h

end LoadScenario.Json
