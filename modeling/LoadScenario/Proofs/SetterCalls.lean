import LoadScenario.Proofs.QuotedText
import LoadScenario.Proofs.TextSearch
import LoadScenario.Proofs.WhiteSpace
import LoadScenario.Request.Analysis

/-!
# Calls that set a variable

A call is recognised by a chain of steps, and here the chain is gone through once: a call that is
written out is found, with the text between the comma and the first closing parenthesis as its
value, and what is left is to look for a comment behind it. In the other direction no more is
needed than what a match begins with and that the name of a variable is a word, whatever the script
looks like. Where neither function is named there is nothing to find.
-/

namespace LoadScenario

open Text

namespace Script

/-! ## How a call is written -/

/-- The two functions that set a variable. -/
inductive SetterFunction where
  | environment
  | global

def SetterFunction.word : SetterFunction → String
  | environment => "setEnvironmentVariable"
  | global => "setGlobalVariable"

/-- A call that sets a variable, as it is written. -/
structure SetterCall where
  /-- Whether the function is called on the object `postman`. -/
  onPostman : Bool
  function : SetterFunction
  beforeBracket : List Char
  beforeName : List Char
  opening : Quote
  name : String
  closing : Quote
  beforeComma : List Char
  /-- Everything between the comma and the closing parenthesis. -/
  value : List Char

namespace SetterCall

def object (call : SetterCall) : List Char := if call.onPostman then "postman.".toList else []

/-- The call up to its comma. -/
def front (call : SetterCall) : List Char :=
  call.object ++ (call.function.word.toList ++ (call.beforeBracket ++ '(' :: (call.beforeName ++
    call.opening.char :: (call.name.toList ++ call.closing.char :: (call.beforeComma ++ [','])))))

def text (call : SetterCall) : List Char := call.front ++ (call.value ++ [')'])

/-- The call as it is found with the place that the comment behind it names. -/
def setter (call : SetterCall) (jsonPath : Option String) : Setter :=
  ⟨call.name, String.ofList (trim call.value), jsonPath⟩

/-- What a call has to keep to for its parts to be told apart. -/
structure Readable (call : SetterCall) : Prop where
  name : ∀ c ∈ call.name.toList, isWord c
  value : ∀ c ∈ call.value, c ≠ ')' ∧ c ≠ '\n'
  beforeBracket : ∀ c ∈ call.beforeBracket, isBlank c
  beforeName : ∀ c ∈ call.beforeName, isBlank c
  beforeComma : ∀ c ∈ call.beforeComma, isBlank c

theorem text_ne_nil (call : SetterCall) : call.text ≠ [] :=
  List.append_ne_nil_of_right_ne_nil _ (List.append_ne_nil_of_right_ne_nil _ (List.cons_ne_nil _ _))

theorem text_append (call : SetterCall) (rest : List Char) :
    call.text ++ rest = call.front ++ (call.value ++ ')' :: rest) := by
  rw [text, List.append_assoc, List.append_assoc, List.singleton_append]

theorem front_append (call : SetterCall) (rest : List Char) : call.front ++ rest =
    call.object ++ (call.function.word.toList ++ (call.beforeBracket ++ '(' :: (call.beforeName ++
      call.opening.char :: (call.name.toList ++ call.closing.char :: (call.beforeComma ++
        ',' :: rest))))) := by
  rw [front]
  simp only [List.append_assoc, List.cons_append, List.nil_append]

end SetterCall

/-- A call on the object `postman`, without white space before its value. -/
def plainCall (f : SetterFunction) (name : String) (value : List Char) : SetterCall where
  onPostman := true
  function := f
  beforeBracket := []
  beforeName := []
  opening := .double
  name := name
  closing := .double
  beforeComma := []
  value := value

theorem readable_plainCall {f : SetterFunction} {name : String} {value : List Char}
    (hname : ∀ c ∈ name.toList, isWord c) (hvalue : ∀ c ∈ value, c ≠ ')' ∧ c ≠ '\n') :
    (plainCall f name value).Readable :=
  ⟨hname, hvalue, nofun, nofun, nofun⟩

/-! ## Reading a call -/

theorem upTo_append {closing : Char} {cs : List Char} (h : ∀ c ∈ cs, c ≠ closing ∧ c ≠ '\n')
    (rest : List Char) : upTo [closing] (cs ++ closing :: rest) = some (cs, rest) := by
  induction cs with
  | nil =>
      rw [List.nil_append, upTo, expect_eq_some_iff.mpr (List.singleton_append).symm]
  | cons c cs ih =>
      rw [List.forall_mem_cons] at h
      rw [List.cons_append, upTo, expect_cons_of_ne h.1.1, if_neg h.1.2, ih h.2]
      rfl

theorem eq_of_upTo {closing : Char} {cs inner rest : List Char}
    (h : upTo [closing] cs = some (inner, rest)) :
    cs = inner ++ closing :: rest ∧ ∀ c ∈ inner, c ≠ closing ∧ c ≠ '\n' := by
  obtain ⟨htext, hline, hshortest⟩ := eq_of_upTo_eq_some h
  refine ⟨htext, fun c hc => ⟨?_, fun hnewline => hline (hnewline ▸ hc)⟩⟩
  rintro rfl
  obtain ⟨before, after, rfl⟩ := List.append_of_mem hc
  have hle := hshortest before (after ++ c :: rest) (by rw [htext]; simp)
  rw [List.length_append, List.length_cons] at hle
  omega

theorem quoteMark_char (q : Quote) (cs : List Char) : quoteMark (q.char :: cs) = some cs := by
  rw [quoteMark, q.ofChar?_char]
  rfl

theorem exists_quote {cs rest : List Char} (h : quoteMark cs = some rest) :
    ∃ q : Quote, cs = q.char :: rest := by
  cases cs with
  | nil => cases h
  | cons c cs =>
      obtain ⟨q, hquote, rfl⟩ := Option.map_eq_some_iff.mp h
      exact ⟨q, by rw [Quote.ofChar?_eq_some_iff.mp hquote]⟩

theorem Quote.isBlank_char (q : Quote) : isBlank q.char = false := by cases q <;> decide

theorem Quote.isWord_char (q : Quote) : isWord q.char = false := by cases q <;> decide

theorem findSome?_setterFunctions (f : SetterFunction) (rest : List Char) :
    setterFunctions.findSome? (expect · (f.word.toList ++ rest)) = some rest := by
  cases f with
  | environment =>
      have hword : expect "setEnvironmentVariable".toList
          (SetterFunction.environment.word.toList ++ rest) = some rest :=
        expect_eq_some_iff.mpr rfl
      rw [setterFunctions, List.findSome?_cons, hword]
  | global =>
      have hother : expect "setEnvironmentVariable".toList
          (SetterFunction.global.word.toList ++ rest) = none := rfl
      have hword : expect "setGlobalVariable".toList
          (SetterFunction.global.word.toList ++ rest) = some rest :=
        expect_eq_some_iff.mpr rfl
      rw [setterFunctions, List.findSome?_cons, hother, List.findSome?_cons, hword]

theorem setterCall_object {call : SetterCall} {previous : Option Char}
    (hprevious : call.onPostman = false → isWord? previous = false) (rest : List Char) :
    setterCall previous (call.object ++ (call.function.word.toList ++ rest)) = some rest := by
  rw [setterCall, SetterCall.object]
  cases hobject : call.onPostman with
  | true =>
      rw [if_pos rfl, expect_eq_some_iff.mpr rfl]
      exact findSome?_setterFunctions call.function rest
  | false =>
      have hnone : expect "postman.".toList (call.function.word.toList ++ rest) = none := by
        cases call.function <;> rfl
      rw [if_neg Bool.false_ne_true, List.nil_append, hnone]
      simp only
      rw [if_neg (by rw [hprevious hobject]; exact Bool.false_ne_true)]
      exact findSome?_setterFunctions call.function rest

/-- A call is found as it is written, up to the comment behind it. -/
theorem SetterCall.Readable.setter_append {call : SetterCall} (h : call.Readable)
    (previous : Option Char) (hprevious : call.onPostman = false → isWord? previous = false)
    (rest : List Char) : Script.setter previous (call.text ++ rest) =
      match pathComment rest with
      | some (path, behind) => some (call.setter (nonBlank? path), behind)
      | none => some (call.setter none, rest) := by
  have hname (cs : List Char) := span_append h.name (call.closing.char :: cs) (by
    rintro _ ⟨⟩
    exact call.closing.isWord_char)
  have hvalue : upTo [')'] (skipBlank (call.value ++ ')' :: rest)) =
      some (skipBlank call.value, rest) := by
    rw [skipBlank_append_cons (by decide)]
    exact upTo_append (fun c hc => h.value c ((List.dropWhile_suffix _).subset hc)) rest
  rw [SetterCall.text_append, SetterCall.front_append, Script.setter, setterCall_object hprevious]
  simp only [Option.bind_eq_bind, Option.bind_some]
  rw [expect_gap h.beforeBracket (by decide), Option.bind_some,
    skipBlank_gap h.beforeName call.opening.isBlank_char, quoteMark_char, Option.bind_some,
    (hname _).1, (hname _).2, quoteMark_char, Option.bind_some,
    expect_gap h.beforeComma (by decide), Option.bind_some, hvalue, Option.bind_some]
  simp only
  rw [trim_skipBlank, String.ofList_toList]
  cases pathComment rest <;> rfl

theorem SetterCall.Readable.setter_cases {call : SetterCall} (h : call.Readable)
    (previous : Option Char) (hprevious : call.onPostman = false → isWord? previous = false)
    (rest : List Char) : ∃ jsonPath behind,
      Script.setter previous (call.text ++ rest) = some (call.setter jsonPath, behind) := by
  rw [h.setter_append previous hprevious]
  cases pathComment rest <;> exact ⟨_, _, rfl⟩

/-! ## What is recognised -/

/-- A character that does not occur in the beginning of a match. -/
def Outside (c : Char) : Prop := isWord c = false ∧ c ≠ '.'

theorem SetterFunction.not_outside (f : SetterFunction) : ∀ c ∈ f.word.toList, ¬ Outside c := by
  have hword : ∀ c ∈ f.word.toList, isWord c = true := by cases f <;> decide
  rintro c hc ⟨houtside, -⟩
  rw [hword c hc] at houtside
  cases houtside

theorem SetterFunction.word_ne_nil (f : SetterFunction) : f.word.toList ≠ [] := by
  cases f <;> exact List.cons_ne_nil _ _

theorem exists_function {previous : Option Char} {cs rest : List Char}
    (h : setterCall previous cs = some rest) : ∃ (onPostman : Bool) (f : SetterFunction),
      cs = (if onPostman then "postman.".toList else []) ++ (f.word.toList ++ rest) := by
  have hword : ∀ {cs}, setterFunctions.findSome? (expect · cs) = some rest →
      ∃ f : SetterFunction, cs = f.word.toList ++ rest := by
    intro cs hfound
    obtain ⟨w, hw, hexpect⟩ := List.exists_of_findSome?_eq_some hfound
    have hcs := expect_eq_some_iff.mp hexpect
    rw [setterFunctions, List.mem_cons, List.mem_singleton] at hw
    rcases hw with rfl | rfl
    · exact ⟨.environment, hcs⟩
    · exact ⟨.global, hcs⟩
  rw [setterCall] at h
  split at h
  next cs' hobject =>
    obtain ⟨f, rfl⟩ := hword h
    exact ⟨true, f, expect_eq_some_iff.mp hobject⟩
  next =>
    split at h
    · cases h
    · obtain ⟨f, hcs⟩ := hword h
      exact ⟨false, f, hcs⟩

/-- A match begins with the name of a function, alone or behind the object. -/
theorem begins_of_setterCall {previous : Option Char} {cs rest : List Char}
    (h : setterCall previous cs = some rest) : ∃ (f : SetterFunction) (begins : List Char),
      f.word.toList <:+: begins ∧ (∀ c ∈ begins, ¬ Outside c) ∧ cs = begins ++ rest := by
  obtain ⟨onPostman, f, hcs⟩ := exists_function h
  have hobject : ∀ c ∈ (if onPostman then "postman.".toList else []), ¬ Outside c := by
    have hinside : ∀ c ∈ (if onPostman then "postman.".toList else []),
        isWord c = true ∨ c = '.' := by
      cases onPostman <;> decide
    rintro c hc ⟨hword, hdot⟩
    rcases hinside c hc with hinside | hinside
    · rw [hinside] at hword
      cases hword
    · exact hdot hinside
  refine ⟨f, (if onPostman then "postman.".toList else []) ++ f.word.toList,
    (List.suffix_append _ _).isInfix, ?_, ?_⟩
  · exact fun c hc => (List.mem_append.mp hc).elim (hobject c) (f.not_outside c)
  · rw [List.append_assoc]
    exact hcs

theorem setter_of_outside {c : Char} (hc : Outside c) (previous : Option Char) (cs : List Char) :
    setter previous (c :: cs) = none := by
  have hcall : setterCall previous (c :: cs) = none := by
    rw [Option.eq_none_iff_forall_ne_some]
    intro rest hrest
    obtain ⟨f, begins, hf, hbegins, heq⟩ := begins_of_setterCall hrest
    cases begins with
    | nil => exact f.word_ne_nil (List.infix_nil.mp hf)
    | cons d begins =>
        rw [← List.head_eq_of_cons_eq heq] at hbegins
        exact hbegins c List.mem_cons_self hc
  rw [setter, hcall]
  rfl

/-- A text that names neither function begins no match, unless the match goes on behind it. -/
theorem setter_eq_none {cs rest : List Char} (hnames : ∀ f : SetterFunction,
    ¬ f.word.toList <:+: cs) (hborder : (cs ≠ [] ∧ ∀ c ∈ cs.getLast?, Outside c) ∨
      ∀ c ∈ rest.head?, Outside c) (previous : Option Char) :
    setter previous (cs ++ rest) = none := by
  have hcall : setterCall previous (cs ++ rest) = none := by
    rw [Option.eq_none_iff_forall_ne_some]
    intro behind hbehind
    obtain ⟨f, begins, hf, hbegins, heq⟩ := begins_of_setterCall hbehind
    rcases List.append_eq_append_iff.mp heq with ⟨more, rfl, hrest⟩ | ⟨more, rfl, -⟩
    · rcases hborder with ⟨hne, hlast⟩ | hfirst
      · exact hbegins _ (List.mem_append_left _ (List.getLast_mem hne))
          (hlast _ (List.getLast?_eq_some_getLast hne))
      · cases more with
        | nil =>
            rw [List.append_nil] at hf
            exact hnames f hf
        | cons c more =>
            rw [hrest] at hfirst
            exact hbegins c (List.mem_append_right _ List.mem_cons_self) (hfirst c rfl)
    · exact hnames f (hf.trans (List.prefix_append begins more).isInfix)
  rw [setter, hcall]
  rfl

theorem valuesFrom_unnamed {passed rest : List Char}
    (hnames : ∀ f : SetterFunction, ¬ f.word.toList <:+: passed)
    (hborder : (∀ c ∈ passed.getLast?, Outside c) ∨ ∀ c ∈ rest.head?, Outside c)
    (previous : Option Char) : valuesFrom setter previous (passed ++ rest) =
      valuesFrom setter (passed.getLast?.or previous) rest := by
  refine valuesFrom_suffixes (fun cs hcs hne => setter_eq_none ?_ ?_) previous
  · exact fun f hf => hnames f (hf.trans hcs.isInfix)
  · refine hborder.imp_left fun hlast => ⟨hne, ?_⟩
    obtain ⟨front, rfl⟩ := hcs
    rwa [List.getLast?_append_of_ne_nil front hne] at hlast

/-- The name of a variable is a word. -/
theorem isWord_of_setter {previous : Option Char} {cs rest : List Char} {s : Setter}
    (h : setter previous cs = some (s, rest)) : ∀ c ∈ s.name.toList, isWord c := by
  obtain ⟨cs₁, -, h⟩ := Option.bind_eq_some_iff.mp h
  obtain ⟨cs₂, -, h⟩ := Option.bind_eq_some_iff.mp h
  obtain ⟨cs₃, -, h⟩ := Option.bind_eq_some_iff.mp h
  obtain ⟨cs₄, -, h⟩ := Option.bind_eq_some_iff.mp h
  obtain ⟨cs₅, -, h⟩ := Option.bind_eq_some_iff.mp h
  obtain ⟨⟨value, cs₆⟩, -, h⟩ := Option.bind_eq_some_iff.mp h
  have hname : s.name = String.ofList (cs₃.takeWhile isWord) := by
    simp only at h
    split at h <;> cases h <;> rfl
  rw [hname, String.toList_ofList]
  exact fun c hc => List.mem_takeWhile_imp hc

/-! ## The calls of a script -/

theorem map_snd_setters (script : String) :
    (setters script).map Prod.snd = findAll setter script.toList := by
  rw [setters, findAll, filterMap_value?_eq []]
  show (locate (byteLength []) _).map Prod.snd = _
  rw [locate_eq, List.map_map]
  rfl

theorem isWord_of_mem_setters {script : String} {offset : Nat} {s : Setter}
    (h : (offset, s) ∈ setters script) : ∀ c ∈ s.name.toList, isWord c := by
  have hs : s ∈ findAll setter script.toList := by
    rw [← map_snd_setters]
    exact List.mem_map_of_mem (f := Prod.snd) h
  obtain ⟨_, _, _, hrecognized⟩ := recognized_of_mem_valuesFrom hs
  exact isWord_of_setter hrecognized

/-- What a script begins with is the first that is found. -/
theorem setters_of_setter {script : String} {s : Setter} {rest : List Char}
    (h : setter none script.toList = some (s, rest)) :
    ∃ later, setters script = (0, s) :: later := by
  rw [setters, pieces]
  cases hscript : script.toList with
  | nil =>
      rw [hscript] at h
      cases h
  | cons c cs =>
      rw [hscript] at h
      rw [piecesFrom, h]
      exact ⟨_, rfl⟩

end Script

/-! ## What comes of a call -/

open Script

section

variable {script : String} {offset : Nat} {s : Setter} {text path : String} {c : Capture}

theorem captureOf?_text (script : String) (offset : Nat) (h : literalText? s.value = some text) :
    captureOf? script offset s = some (.literal s.name (translate text)) := by
  rw [captureOf?, h]

theorem captureOf?_named (script : String) (offset : Nat) (htext : literalText? s.value = none)
    (hpath : s.jsonPath = some path) :
    captureOf? script offset s = some (.json s.name (String.ofList (belowRoot path.toList))) := by
  rw [captureOf?, htext, hpath]
  rfl

theorem captureOf?_inferred (htext : literalText? s.value = none) (hpath : s.jsonPath = none)
    (hinferred : inferredPath? script s.value offset = some path) :
    captureOf? script offset s = some (.json s.name (String.ofList (belowRoot path.toList))) := by
  rw [captureOf?, htext, hpath, hinferred]
  rfl

theorem captureOf?_untold (htext : literalText? s.value = none) (hpath : s.jsonPath = none)
    (hinferred : inferredPath? script s.value offset = none) :
    captureOf? script offset s = none := by
  rw [captureOf?, htext, hpath, hinferred]
  rfl

/-- Only a literal is kept as a text. -/
theorem captureOf?_cases (h : captureOf? script offset s = some c) :
    (∃ text, literalText? s.value = some text ∧ c = .literal s.name (translate text)) ∨
      ∃ path, literalText? s.value = none ∧ c = .json s.name path := by
  rw [captureOf?] at h
  split at h
  next text htext =>
    cases h
    exact .inl ⟨text, htext, rfl⟩
  next htext =>
    obtain ⟨path, -, rfl⟩ := Option.map_eq_some_iff.mp h
    exact .inr ⟨_, htext, rfl⟩

theorem name_of_captureOf? (h : captureOf? script offset s = some c) : c.name = s.name := by
  obtain ⟨_, -, rfl⟩ | ⟨_, -, rfl⟩ := captureOf?_cases h <;> rfl

namespace RequestRecord

variable {r : RequestRecord} {later : List (Nat × Setter)}

theorem captures_cons (h : setters r.script = (offset, s) :: later)
    (hc : captureOf? r.script offset s = some c) : r.request.checks.captures =
      c :: later.filterMap fun (offset, s) => captureOf? r.script offset s := by
  show (setters r.script).filterMap _ = _
  rw [h]
  exact List.filterMap_cons_some hc

theorem scriptWarnings_eq_nil_iff : r.scriptWarnings = [] ↔
    ∀ p ∈ setters r.script, captureOf? r.script p.1 p.2 ≠ none := by
  rw [scriptWarnings, List.filterMap_eq_nil_iff]
  refine forall₂_congr ?_
  rintro ⟨offset, s⟩ -
  simp only
  cases captureOf? r.script offset s <;> simp

end RequestRecord

end

/-- A request that has a script and not much else. -/
def RequestRecord.scripted (script : String) : RequestRecord where
  id := "1"
  name := "Order"
  method := "POST"
  url := "/orders"
  headers := ""
  bodyMode := none
  rawBody := none
  helper := none
  credentials := none
  tests := some script

end LoadScenario
