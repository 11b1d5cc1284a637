import LoadScenario.Options.VariableFile
import LoadScenario.Proofs.OrderedMap
import LoadScenario.Proofs.TextSearch
import LoadScenario.Proofs.WhiteSpace

/-!
# Entries of a variable file

Whatever its lines look like, a variable file adds to the variables of a process: a variable that is
set stays as it is, and of several lines for a name the first counts.

An entry gives a value to a name on a line of its own. The value can stand there as it is, between
single quotes, or between double quotes with escapes for what means something there, and between
double quotes every value can be written that a variable can hold. A file of such entries is read
as what has been written.
-/

namespace LoadScenario.VariableFile

open Text

/-! ## What a file adds -/

/-- What lines define, up to the first line that makes no sense. -/
def definitionsFrom (known : Variables) : List (Option (List Char)) → Variables
  | [] => []
  | none :: _ => []
  | some line :: rest =>
    match readLine (valueIn known) line with
    | .blank => definitionsFrom known rest
    | .malformed => []
    | .variable name value =>
      match define known name value with
      | .ok known => (name, value) :: definitionsFrom known rest
      | .error _ => []

/-- What a file defines, also for variables that are set already. -/
def definitions (process : Variables) (file : Content) : Variables :=
  definitionsFrom process (contentLines file)

theorem exists_define (known : Variables) (name : String) {value : String}
    (hvalue : '\x00' ∉ value.toList) : ∃ known', define known name value = .ok known' := by
  rw [define]
  split
  · exact ⟨_, rfl⟩
  · rw [if_neg (fun h => hvalue (List.contains_iff_mem.mp h))]
    exact ⟨_, rfl⟩

theorem lookup_of_define {known known' : Variables} {name value : String}
    (h : define known name value = .ok known') (x : String) :
    known'.lookup x = (known.lookup x).or (if x = name then some value else none) := by
  rw [define] at h
  split at h
  next hset =>
    cases h
    exact (lookup_or_of_isSome hset _ x).symm
  next =>
    split at h
    · cases h
    · cases h
      exact lookup_concat known name value x

theorem lookup_of_addLines {known known' : Variables} {ls : List (Option (List Char))}
    (h : addLines known ls = .ok known') (x : String) :
    known'.lookup x = (known.lookup x).or ((definitionsFrom known ls).lookup x) := by
  fun_induction definitionsFrom known ls with
  | case1 | case2 =>
      cases h
      exact Option.or_none.symm
  | case3 known line rest hline ih =>
      rw [addLines, hline] at h
      exact ih h
  | case4 known line rest hline =>
      rw [addLines, hline] at h
      cases h
      exact Option.or_none.symm
  | case5 known line rest name value hline defined hdefine ih =>
      rw [addLines, hline] at h
      simp only [hdefine] at h
      rw [ih h, lookup_of_define hdefine, lookup_cons_eq, Option.or_assoc]
  | case6 known line rest name value hline e hdefine =>
      rw [addLines, hline] at h
      simp only [hdefine] at h
      cases h

/-- A file adds to the variables that are set: what is set stays, and the first line for a name
counts. -/
theorem lookup_of_extend {process known : Variables} {file : Content}
    (h : extend process file = .ok known) (x : String) :
    known.lookup x = (process.lookup x).or ((definitions process file).lookup x) :=
  lookup_of_addLines h x

/-! ## How entries are written -/

/-- How a value is quoted. -/
inductive Quotes where
  | none
  | single
  | double

/-- A character between double quotes. -/
def escaped (c : Char) : List Char :=
  if c = '\n' then ['\\', 'n']
  else if c = '\\' ∨ c = '"' ∨ c = '$' then ['\\', c]
  else [c]

/-- A value as it is written. -/
def Quotes.write : Quotes → List Char → List Char
  | none, cs => cs
  | single, cs => '\x27' :: (cs ++ ['\x27'])
  | double, cs => '"' :: (cs.flatMap escaped ++ ['"'])

/-- Whether a character stands for itself outside quotes. -/
def isPlain (c : Char) : Bool := !isBlank c && !"$\\\"\x27".toList.contains c

/-- A value can be written with some quotes. -/
def Quotes.Fit : Quotes → List Char → Prop
  | none, cs => (∀ c ∈ cs, isPlain c) ∧ cs.head? ≠ some '#'
  | single, cs => '\x27' ∉ cs ∧ '\n' ∉ cs
  | double, _ => True

instance : (q : Quotes) → (cs : List Char) → Decidable (q.Fit cs)
  | .none, cs => inferInstanceAs (Decidable ((∀ c ∈ cs, isPlain c) ∧ _))
  | .single, _ => inferInstanceAs (Decidable (_ ∧ _))
  | .double, _ => inferInstanceAs (Decidable True)

/-- An entry of a variable file. -/
structure Entry where
  name : String
  value : String
  quotes : Quotes

namespace Entry

/-- The line of an entry. -/
def line (e : Entry) : List Char := e.name.toList ++ '=' :: e.quotes.write e.value.toList

/-- What an entry has to keep to. -/
structure Readable (e : Entry) : Prop where
  first : e.name.toList.head?.any startsName = true
  name : ∀ c ∈ e.name.toList, inName c = true
  noNul : '\x00' ∉ e.value.toList
  fit : e.quotes.Fit e.value.toList

instance (e : Entry) : Decidable e.Readable :=
  decidable_of_iff (e.name.toList.head?.any startsName = true ∧
      (∀ c ∈ e.name.toList, inName c = true) ∧ '\x00' ∉ e.value.toList ∧
      e.quotes.Fit e.value.toList)
    ⟨fun h => ⟨h.1, h.2.1, h.2.2.1, h.2.2.2⟩, fun h => ⟨h.first, h.name, h.noNul, h.fit⟩⟩

end Entry

/-- A file of entries. -/
def written (es : List Entry) : String := String.ofList (es.flatMap fun e => e.line ++ ['\n'])

/-- What the entries of a file give a name. -/
def given? (es : List Entry) (name : String) : Option String :=
  (es.map fun e => (e.name, e.value)).lookup name

/-! ## Reading a value -/

section

variable {value : String → String} {mode mode' : Mode} {added cs : List Char} {c : Char}

theorem valueFrom_cons (hstep : step value mode c = some (mode', added)) (hmode : mode ≠ .ended) :
    valueFrom value mode (c :: cs) = (valueFrom value mode' cs).map (added ++ ·) := by
  have hopen : ¬ (mode = .ended ∧ c = '#') := fun h => hmode h.1
  cases mode with
  | ended => exact absurd rfl hmode
  | _ => simp only [valueFrom, hopen, if_false, hstep]

theorem step_plain (hc : isPlain c = true) : step value .plain c = some (.plain, [c]) := by
  rw [isPlain, Bool.and_eq_true, Bool.not_eq_true', Bool.not_eq_true'] at hc
  obtain ⟨hblank, hplain⟩ := hc
  have hspace : ¬ (c = ' ' ∨ c = '\t') := by
    rintro (rfl | rfl) <;> exact absurd hblank (by decide)
  have hspecial : ∀ d ∈ "$\\\"\x27".toList, c ≠ d := by
    rintro d hd rfl
    rw [List.contains_iff_mem.mpr hd] at hplain
    cases hplain
  rw [step, textStep, if_neg (hspecial _ (by decide)), if_neg (hspecial _ (by decide)),
    if_neg (hspecial _ (by decide)), if_neg Bool.false_ne_true, if_neg (hspecial _ (by decide)),
    if_neg hspace]

theorem valueFrom_plain (h : ∀ c ∈ cs, isPlain c = true) :
    valueFrom value .plain cs = some cs := by
  induction cs with
  | nil => rfl
  | cons c cs ih =>
      rw [List.forall_mem_cons] at h
      rw [valueFrom_cons (step_plain h.1) nofun, ih h.2]
      rfl

theorem valueFrom_singleQuoted (h : '\x27' ∉ cs) :
    valueFrom value .singleQuoted (cs ++ ['\x27']) = some cs := by
  induction cs with
  | nil => rfl
  | cons c cs ih =>
      rw [List.mem_cons, not_or] at h
      have hstep : step value .singleQuoted c = some (.singleQuoted, [c]) := by
        rw [step, if_neg (Ne.symm h.1)]
      rw [List.cons_append, valueFrom_cons hstep nofun, ih h.2]
      rfl

theorem valueFrom_escaped (c : Char) (cs : List Char) :
    valueFrom value .doubleQuoted (escaped c ++ cs) =
      (valueFrom value .doubleQuoted cs).map (c :: ·) := by
  have hescape : ∀ d, escape? d = some c →
      valueFrom value .doubleQuoted ('\\' :: d :: cs) =
        (valueFrom value .doubleQuoted cs).map (c :: ·) := by
    intro d hd
    have hslash : step value .doubleQuoted '\\' = some (.escaped true, []) := rfl
    have hstep : step value (.escaped true) d = some (.doubleQuoted, [c]) := by
      rw [step, hd]
      rfl
    rw [valueFrom_cons hslash nofun, valueFrom_cons hstep nofun, Option.map_map]
    rfl
  rw [escaped]
  split
  next hline =>
    subst hline
    exact hescape 'n' (by decide)
  next hline =>
    split
    next hspecial =>
      refine hescape c ?_
      rcases hspecial with rfl | rfl | rfl <;> decide
    next hplain =>
      rw [not_or, not_or] at hplain
      have hstep : step value .doubleQuoted c = some (.doubleQuoted, [c]) := by
        rw [step, textStep, if_neg hplain.2.2, if_neg hplain.1, if_neg hplain.2.1, if_pos rfl]
      rw [List.cons_append, valueFrom_cons hstep nofun]
      rfl

theorem valueFrom_doubleQuoted (cs : List Char) :
    valueFrom value .doubleQuoted (cs.flatMap escaped ++ ['"']) = some cs := by
  induction cs with
  | nil => rfl
  | cons c cs ih =>
      rw [List.flatMap_cons, List.append_assoc, valueFrom_escaped, ih]
      rfl

/-- A written value is read as it is meant. -/
theorem valueFrom_write {q : Quotes} (h : q.Fit cs) :
    valueFrom value .plain (q.write cs) = some cs := by
  cases q with
  | none => exact valueFrom_plain h.1
  | single =>
      have hopen : step value .plain '\x27' = some (.singleQuoted, []) := rfl
      rw [Quotes.write, valueFrom_cons hopen nofun, valueFrom_singleQuoted h.1]
      rfl
  | double =>
      have hopen : step value .plain '"' = some (.doubleQuoted, []) := rfl
      rw [Quotes.write, valueFrom_cons hopen nofun, valueFrom_doubleQuoted]
      rfl

end

/-! ## Reading a line -/

theorem isBlank_of_isPlain {c : Char} (h : isPlain c = true) : isBlank c = false := by
  rw [isPlain, Bool.and_eq_true, Bool.not_eq_true'] at h
  exact h.1

theorem isBlank_of_startsName {c : Char} (h : startsName c = true) :
    isBlank c = false ∧ c ≠ '#' := by
  rw [startsName, Bool.or_eq_true] at h
  rcases h with halpha | hunderscore
  · have hascii := toNat_lt_of_isAlpha halpha
    revert halpha
    exact forall_of_toNat_lt (p := fun c => c.isAlpha = true → isBlank c = false ∧ c ≠ '#')
      (by decide) hascii
  · rw [of_decide_eq_true hunderscore]
    decide

/-- The ends of a written value. -/
theorem Quotes.unpadded_write {q : Quotes} {cs : List Char} (h : q.Fit cs) :
    Unpadded (q.write cs) := by
  cases q with
  | none =>
      exact ⟨fun c hc => isBlank_of_isPlain (h.1 c (List.mem_of_mem_head? hc)),
        fun c hc => isBlank_of_isPlain (h.1 c (List.mem_of_mem_getLast? hc))⟩
  | single => exact unpadded_of_ends (by decide) (by decide) cs
  | double => exact unpadded_of_ends (by decide) (by decide) _

namespace Entry

variable {e : Entry}

theorem Readable.exists_first (h : e.Readable) : ∃ c cs, e.name.toList = c :: cs ∧
    startsName c = true := by
  have hfirst := h.first
  cases hname : e.name.toList with
  | nil =>
      rw [hname] at hfirst
      cases hfirst
  | cons c cs =>
      rw [hname] at hfirst
      exact ⟨c, cs, rfl, hfirst⟩

theorem Readable.unpadded_line (h : e.Readable) : Unpadded e.line := by
  obtain ⟨c, cs, hname, hc⟩ := h.exists_first
  have hwritten := Quotes.unpadded_write h.fit
  constructor
  · rw [line, hname]
    rintro _ ⟨⟩
    exact (isBlank_of_startsName hc).1
  · rw [line, List.getLast?_append_of_ne_nil _ (List.cons_ne_nil _ _), List.getLast?_cons]
    rintro d hd
    cases hlast : (e.quotes.write e.value.toList).getLast? with
    | none =>
        rw [hlast] at hd
        obtain rfl : '=' = d := Option.some.inj hd
        decide
    | some last =>
        rw [hlast] at hd
        obtain rfl : last = d := Option.some.inj hd
        exact hwritten.last last hlast

theorem Readable.nameAndRest?_line (h : e.Readable) :
    nameAndRest? e.line = some (e.name, e.quotes.write e.value.toList) := by
  have hequals : ∀ c ∈ ('=' :: e.quotes.write e.value.toList).head?, inName c = false := by
    rintro c ⟨⟩
    decide
  obtain ⟨htake, hdrop⟩ := span_append h.name _ hequals
  have hname : name? e.line = some (e.name, '=' :: e.quotes.write e.value.toList) := by
    obtain ⟨c, cs, hfirst, hc⟩ := h.exists_first
    have hstart : e.line.head?.any startsName = true := by
      rw [line, hfirst]
      exact hc
    rw [name?, if_pos hstart, line, htake, hdrop, String.ofList_toList]
  rw [nameAndRest?, hname, Option.bind_eq_bind, Option.bind_some]
  simp only [expect_blank (c := '=') (by decide)]
  rfl

/-- A line is read as the entry that it is the line of, whatever the variables hold. -/
theorem Readable.readLine_line (h : e.Readable) (value : String → String) :
    readLine value e.line = .variable e.name e.value := by
  obtain ⟨c, cs, hname, hc⟩ := h.exists_first
  have hhead : e.line.head? = some c := by
    rw [line, hname]
    rfl
  have hstart : ¬ (e.line = [] ∨ e.line.head? = some '#') := by
    rintro (hnil | hcomment)
    · rw [hnil] at hhead
      cases hhead
    · rw [hhead] at hcomment
      exact (isBlank_of_startsName hc).2 (Option.some.inj hcomment)
  simp only [readLine, h.unpadded_line.trim_eq, if_neg hstart, h.nameAndRest?_line,
    skipBlank_of_head (Quotes.unpadded_write h.fit).first, valueFrom_write h.fit,
    String.ofList_toList]
  split
  next hempty =>
    -- Only a value without quotes can be empty here, and none begins with the sign of a comment.
    cases hquotes : e.quotes with
    | none =>
        have hfit := h.fit
        rw [hquotes] at hempty hfit
        rcases hempty with hnil | hcomment
        · rw [String.toList_eq_nil_iff.mp hnil]
        · exact absurd hcomment hfit.2
    | single | double =>
        rw [hquotes] at hempty
        rcases hempty with hnil | hcomment
        · cases hnil
        · exact absurd hcomment (by simp [Quotes.write])
  next => rfl

theorem Readable.not_mem_line (h : e.Readable) : '\n' ∉ e.line := by
  rw [line, List.mem_append, List.mem_cons]
  rintro (hname | hequals | hvalue)
  · exact absurd (h.name _ hname) (by decide)
  · exact absurd hequals (by decide)
  · have hfit := h.fit
    cases hquotes : e.quotes with
    | none =>
        rw [hquotes] at hvalue hfit
        exact absurd (hfit.1 _ hvalue) (by decide)
    | single =>
        rw [hquotes] at hvalue hfit
        simp only [Quotes.write, List.mem_cons, List.mem_append, List.not_mem_nil,
          or_false] at hvalue
        rcases hvalue with hopen | hinner | hclose
        · exact absurd hopen (by decide)
        · exact hfit.2 hinner
        · exact absurd hclose (by decide)
    | double =>
        rw [hquotes] at hvalue
        simp only [Quotes.write, List.mem_cons, List.mem_append, List.not_mem_nil, or_false,
          List.mem_flatMap] at hvalue
        rcases hvalue with hopen | ⟨c, -, hc⟩ | hclose
        · exact absurd hopen (by decide)
        · revert hc
          rw [escaped]
          split
          · decide
          next hline =>
            split
            · rintro hc
              rcases List.mem_cons.mp hc with hslash | hsame
              · exact absurd hslash (by decide)
              · exact hline (List.mem_singleton.mp hsame).symm
            · exact fun hc => hline (List.mem_singleton.mp hc).symm
        · exact absurd hclose (by decide)

end Entry

/-! ## Reading a file -/

theorem lines_written {es : List Entry} (h : ∀ e ∈ es, e.Readable) :
    contentLines (.text (written es)) = es.map (some ·.line) ++ [some []] := by
  have hlines : lines (es.flatMap fun e => e.line ++ ['\n']) = es.map Entry.line ++ [[]] := by
    induction es with
    | nil => rfl
    | cons e es ih =>
        rw [List.forall_mem_cons] at h
        rw [List.flatMap_cons, List.append_assoc, List.singleton_append, lines_append_newline,
          lines_of_not_mem h.1.not_mem_line, ih h.2]
        rfl
  rw [contentLines, written, String.toList_ofList, hlines, List.map_append, List.map_map]
  rfl

/-- A file of entries can be used, and it defines what the entries say. -/
theorem definitions_written (process : Variables) {es : List Entry} (h : ∀ e ∈ es, e.Readable) :
    (∃ known, extend process (.text (written es)) = .ok known) ∧
      definitions process (.text (written es)) = es.map fun e => (e.name, e.value) := by
  rw [extend, definitions, lines_written h]
  induction es generalizing process with
  | nil => exact ⟨⟨process, rfl⟩, rfl⟩
  | cons e es ih =>
      rw [List.forall_mem_cons] at h
      obtain ⟨defined, hdefined⟩ := exists_define process e.name h.1.noNul
      obtain ⟨hextend, hdefinitions⟩ := ih defined h.2
      rw [List.map_cons, List.cons_append, addLines, definitionsFrom, h.1.readLine_line]
      simp only [hdefined, hdefinitions, List.map_cons]
      exact ⟨hextend, trivial⟩

end LoadScenario.VariableFile
