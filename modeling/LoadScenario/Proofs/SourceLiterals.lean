import LoadScenario.Proofs.SelfDelimiting

/-!
# String literals as a reader of source finds them

A scenario is Scala source, and this is what a reader of such source makes of a string literal. In
a literal a backslash stands together with the character behind it for one character, and no line
may end. The reader is an automaton that goes over the text character by character: it is outside
of literals, inside of one, or behind a backslash.

Text between double quotes that comes from `literal` is read as it was meant. The one thing that
can go wrong is an end of a line in the text itself, because nothing escapes it
(`clear_literal`).
-/

namespace LoadScenario.Scenario

/-! ## The value of a literal -/

/-- What a backslash stands for together with the character behind it. -/
def escapes : List (Char × Char) :=
  [('\\', '\\'), ('"', '"'), ('\x27', '\x27'), ('b', '\x08'), ('t', '\t'), ('n', '\n'),
    ('f', '\x0c'), ('r', '\r')]

/-- The value of a literal and the text behind it, read from behind its opening quote. -/
def literalValue? : List Char → Option (List Char × List Char)
  | [] => none
  | [c] => if c = '"' then some ([], []) else none
  | c :: d :: cs =>
    if c = '"' then
      some ([], d :: cs)
    else if c = '\\' then
      (escapes.lookup d).bind fun e =>
        (literalValue? cs).map fun (value, rest) => (e :: value, rest)
    else
      (literalValue? (d :: cs)).map fun (value, rest) => (c :: value, rest)

theorem literalValue?_quote (rest : List Char) : literalValue? ('"' :: rest) = some ([], rest) := by
  cases rest with
  | nil => rw [literalValue?, if_pos rfl]
  | cons d rest => rw [literalValue?, if_pos rfl]

theorem literalValue?_plain {c : Char} (hquote : c ≠ '"') (hslash : c ≠ '\\') (cs : List Char) :
    literalValue? (c :: cs) =
      (literalValue? cs).map fun (value, rest) => (c :: value, rest) := by
  cases cs with
  | nil => exact if_neg hquote
  | cons d cs => rw [literalValue?, if_neg hquote, if_neg hslash]

theorem literalValue?_escaped (cs rest : List Char) :
    literalValue? (cs.flatMap escapeChar ++ '"' :: rest) = some (cs, rest) := by
  induction cs with
  | nil => exact literalValue?_quote rest
  | cons c cs ih =>
      rw [List.flatMap_cons, escapeChar, List.append_assoc]
      split
      next hescape =>
        have hvalue : escapes.lookup c = some c := by
          rcases hescape with rfl | rfl <;> decide
        rw [List.cons_append, List.cons_append, literalValue?, if_neg (by decide), if_pos rfl,
          hvalue, Option.bind_some, List.nil_append, ih]
        rfl
      next hplain =>
        rw [not_or] at hplain
        rw [List.cons_append, literalValue?_plain hplain.2 hplain.1, List.nil_append, ih]
        rfl

/-! ## Literals that keep to their line -/

def endsLine (c : Char) : Bool := c = '\n' || c = '\r'

/-- Where a reader of source is. -/
inductive Place where
  | outside
  | inside
  | escaped
  deriving DecidableEq

namespace Place

/-- Where the reader is after one more character; none if the literal it is in cannot go on so. -/
def next? : Place → Char → Option Place
  | outside, c => some (if c = '"' then inside else outside)
  | inside, c =>
    if c = '"' then some outside
    else if c = '\\' then some escaped
    else if endsLine c then none
    else some inside
  | escaped, c => (escapes.lookup c).map fun _ => inside

def after? (p : Place) (cs : List Char) : Option Place := cs.foldlM next? p

theorem after?_append (p : Place) (cs cs' : List Char) :
    p.after? (cs ++ cs') = (p.after? cs).bind (·.after? cs') := by
  rw [after?, after?, List.foldlM_append]
  rfl

end Place

/-- A text that a reader comes to outside of literals is passed, and the reader is outside again
behind it, exactly under a condition. -/
def Clear (cs : List Char) (condition : Prop) : Prop :=
  (condition → Place.outside.after? cs = some .outside) ∧
    (¬ condition → Place.outside.after? cs = none)

def OneLine (s : String) : Prop := ∀ c ∈ s.toList, endsLine c = false

instance (s : String) : Decidable (OneLine s) :=
  List.decidableBAll _ s.toList

section

variable {cs cs' : List Char} {condition condition' : Prop}

theorem Clear.after?_iff (h : Clear cs condition) :
    Place.outside.after? cs = some .outside ↔ condition := by
  by_cases hc : condition
  · exact iff_of_true (h.1 hc) hc
  · exact iff_of_false (by rw [h.2 hc]; exact nofun) hc

theorem Clear.congr (h : Clear cs condition) (hiff : condition ↔ condition') :
    Clear cs condition' :=
  ⟨fun hc => h.1 (hiff.mpr hc), fun hc => h.2 (fun hc' => hc (hiff.mp hc'))⟩

theorem Clear.append (h : Clear cs condition) (h' : Clear cs' condition') :
    Clear (cs ++ cs') (condition ∧ condition') := by
  constructor
  · rintro ⟨hc, hc'⟩
    rw [Place.after?_append, h.1 hc]
    exact h'.1 hc'
  · intro hboth
    rw [Place.after?_append]
    by_cases hc : condition
    · rw [h.1 hc]
      exact h'.2 fun hc' => hboth ⟨hc, hc'⟩
    · rw [h.2 hc]
      rfl

theorem Clear.of_append {p : Place} (h : Clear cs condition)
    (hread : Place.outside.after? (cs ++ cs') = some p) : condition := by
  by_contra hc
  rw [Place.after?_append, h.2 hc] at hread
  cases hread

theorem clear_flatMap {α : Type} {f : α → List Char} {p : α → Prop} (h : ∀ a, Clear (f a) (p a))
    (l : List α) : Clear (l.flatMap f) (∀ a ∈ l, p a) := by
  induction l with
  | nil => exact ⟨fun _ => rfl, fun hno => absurd (fun a ha => nomatch ha) hno⟩
  | cons a l ih => exact ((h a).append ih).congr List.forall_mem_cons.symm

theorem clear_of_not_mem (h : '"' ∉ cs) : Clear cs True := by
  refine ⟨fun _ => ?_, fun hno => absurd trivial hno⟩
  induction cs with
  | nil => rfl
  | cons c cs ih =>
      rw [List.mem_cons, not_or] at h
      rw [Place.after?, List.foldlM_cons, Place.next?, if_neg (Ne.symm h.1)]
      exact ih h.2

theorem Clear.prepend (h : Clear cs' condition) (hcs : '"' ∉ cs) : Clear (cs ++ cs') condition :=
  ((clear_of_not_mem hcs).append h).congr (iff_of_eq (true_and _))

end

/-- Inside of a literal an escaped text is passed exactly if no line ends in it. -/
theorem after?_escaped (cs : List Char) : Place.inside.after? (cs.flatMap escapeChar) =
    if cs.all (!endsLine ·) then some .inside else none := by
  induction cs with
  | nil => rfl
  | cons c cs ih =>
      have hchar : Place.inside.after? (escapeChar c) =
          if endsLine c then none else some .inside := by
        rw [escapeChar]
        split
        next hescape => rcases hescape with rfl | rfl <;> decide
        next hplain =>
          rw [not_or] at hplain
          rw [Place.after?, List.foldlM_cons, Place.next?, if_neg hplain.2, if_neg hplain.1]
          split
          · rfl
          · rfl
      rw [List.flatMap_cons, Place.after?_append, hchar, List.all_cons]
      cases endsLine c with
      | true => rfl
      | false =>
          rw [if_neg Bool.false_ne_true, Option.bind_some, ih, Bool.not_false, Bool.true_and]

/-- A literal is passed exactly if no line ends in its text. -/
theorem clear_literal (s : String) : Clear (literal s).toList (OneLine s) := by
  have hall : s.toList.all (!endsLine ·) = true ↔ OneLine s := by
    rw [List.all_eq_true]
    exact forall₂_congr fun c _ => by rw [Bool.not_eq_true']
  have hread : Place.outside.after? (literal s).toList =
      (if s.toList.all (!endsLine ·) then some Place.inside else none).bind (·.after? ['"']) := by
    rw [literal_toList, Place.after?_append]
    show Place.inside.after? (s.toList.flatMap escapeChar ++ ['"']) = _
    rw [Place.after?_append, after?_escaped]
  constructor
  · intro hone
    rw [hread, if_pos (hall.mpr hone)]
    rfl
  · intro hbreak
    rw [hread, if_neg (fun h => hbreak (hall.mp h))]
    rfl

theorem OneLine.not_mem_literal {s : String} (h : OneLine s) : '\n' ∉ (literal s).toList := by
  rw [literal_toList, List.mem_append, List.mem_append, List.mem_flatMap]
  rintro (hopen | ⟨c, hc, hchar⟩ | hclose)
  · exact absurd hopen (by decide)
  · have hc' : '\n' = c := by
      rw [escapeChar] at hchar
      split at hchar
      · exact (List.mem_cons.mp hchar).elim (fun h => absurd h (by decide)) List.mem_singleton.mp
      · exact List.mem_singleton.mp hchar
    subst hc'
    exact absurd (h _ hc) (by decide)
  · exact absurd hclose (by decide)

end LoadScenario.Scenario
