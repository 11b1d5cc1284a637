import LoadScenario.Options.Reader
import LoadScenario.Proofs.OrderedMap
import LoadScenario.Proofs.TextSearch

/-!
# Options as they are written

The value of an option can be the next word or be attached to the option, and the option can be
written by its name or its letter. A word of its own must not look like an option, and behind a
letter an equals sign is not part of the value. Apart from that it makes no difference how options
are written and in which order: each is read as the setting and the value that it is for.

The reader of the words only knows that an option is complete when the next one begins. So what is
said about it is not which settings it holds after some words, but which it would hold if the words
ended there (`Reading.Holds`).
-/

namespace LoadScenario

/-! ## How options are written -/

/-- How the value of an option is written. -/
inductive OptionForm where
  /-- Behind the long name, as a word of its own. -/
  | long
  /-- Behind the long name and an equals sign. -/
  | longEquals
  /-- Behind the letter, as a word of its own. -/
  | short
  /-- Behind the letter and an equals sign. -/
  | shortEquals
  /-- Right behind the letter. -/
  | shortAttached

/-- An option with its value. -/
structure GivenOption where
  setting : Setting
  value : String
  form : OptionForm

namespace GivenOption

/-- The words of an option. -/
def words (o : GivenOption) : List String :=
  match o.form with
  | .long => [String.ofList ('-' :: '-' :: o.setting.long.toList), o.value]
  | .longEquals =>
    [String.ofList ('-' :: '-' :: (o.setting.long.toList ++ '=' :: o.value.toList))]
  | .short => [String.ofList ['-', o.setting.short], o.value]
  | .shortEquals => [String.ofList ('-' :: o.setting.short :: '=' :: o.value.toList)]
  | .shortAttached => [String.ofList ('-' :: o.setting.short :: o.value.toList)]

/-- What a value has to keep to so that it can be written in a form. -/
def Readable (o : GivenOption) : Prop :=
  match o.form with
  | .long | .short => o.value.toList.head? = some '-' → o.value = "-"
  | .longEquals | .shortEquals => True
  | .shortAttached => o.value.toList.head? ≠ some '='

instance : (o : GivenOption) → Decidable o.Readable
  | ⟨_, _, .long⟩ | ⟨_, _, .short⟩ => inferInstanceAs (Decidable (_ → _))
  | ⟨_, _, .longEquals⟩ | ⟨_, _, .shortEquals⟩ => inferInstanceAs (Decidable True)
  | ⟨_, _, .shortAttached⟩ => inferInstanceAs (Decidable (_ ≠ _))

end GivenOption

/-- The value that some options give a setting. -/
def optionValue? (os : List GivenOption) (x : Setting) : Option String :=
  (os.map fun o => (o.setting, o.value)).lookup x

/-! ## Names and letters -/

namespace Setting

theorem long_ne_nil (x : Setting) : x.long.toList ≠ [] := by cases x <;> decide

theorem equals_not_mem_long (x : Setting) : '=' ∉ x.long.toList := by cases x <;> decide

theorem short_ne_hyphen (x : Setting) : x.short ≠ '-' := by cases x <;> decide

end Setting

namespace Verb

variable {verb : Verb} {x : Setting}

theorem find?_long (h : x ∈ verb.settings) :
    verb.settings.find? (fun s => s.long = x.long) = some x := by
  cases verb <;> cases x <;> first | rfl | exact absurd h (by decide)

theorem find?_short (h : x ∈ verb.settings) :
    verb.settings.find? (fun s => s.short = x.short) = some x := by
  cases verb <;> cases x <;> first | rfl | exact absurd h (by decide)

end Verb

theorem cutAtEquals_of_not_mem {cs : List Char} (h : '=' ∉ cs) :
    cutAtEquals cs = (String.ofList cs, none) := by
  have hname : ∀ c ∈ cs, decide (c ≠ '=') = true :=
    fun c hc => decide_eq_true (by rintro rfl; exact h hc)
  obtain ⟨htake, hdrop⟩ := Text.span_append hname [] nofun
  rw [List.append_nil] at htake hdrop
  rw [cutAtEquals, htake, hdrop]

theorem cutAtEquals_append {cs : List Char} (h : '=' ∉ cs) (value : List Char) :
    cutAtEquals (cs ++ '=' :: value) = (String.ofList cs, some (String.ofList value)) := by
  have hname : ∀ c ∈ cs, decide (c ≠ '=') = true :=
    fun c hc => decide_eq_true (by rintro rfl; exact h hc)
  obtain ⟨htake, hdrop⟩ := Text.span_append hname ('=' :: value) (by rintro c ⟨⟩; decide)
  rw [cutAtEquals, htake, hdrop]

/-! ## Reading the words of an option -/

namespace Reading

/-- Some settings are all that has been read if the words end here. -/
def Holds (r : Reading) (given : List (Setting × String)) : Prop := r.finish = .ok ⟨given, none⟩

variable {r : Reading} {given : List (Setting × String)} {x : Setting} {value : String}

theorem holds_start : start.Holds [] := rfl

theorem takeOnce_new (hnew : given.lookup x = none) (hvalue : value ≠ "") :
    takeOnce ⟨given, none⟩ x value = .ok ⟨given ++ [(x, value)], none⟩ := by
  have hempty : value.isEmpty = false := String.isEmpty_eq_false_iff.mpr hvalue
  rw [takeOnce, has, hnew, if_neg (by simp), take, hempty, if_neg (by simp)]

/-- An option with its value attached is complete. -/
theorem Holds.begin_attached (h : r.Holds given) (hnew : given.lookup x = none)
    (hvalue : value ≠ "") : ∃ r' : Reading,
      r.begin x (some value) = .ok r' ∧ r'.Holds (given ++ [(x, value)]) := by
  refine ⟨⟨given ++ [(x, value)], none⟩, ?_, rfl⟩
  rw [begin, h]
  exact takeOnce_new hnew hvalue

/-- An option without its value waits for a word. -/
theorem Holds.begin_open (h : r.Holds given) :
    r.begin x none = .ok ⟨given, some (x, none)⟩ := by
  rw [begin, h]
  rfl

theorem holds_open (hnew : given.lookup x = none) (hvalue : value ≠ "") :
    Holds ⟨given, some (x, some value)⟩ (given ++ [(x, value)]) :=
  takeOnce_new hnew hvalue

end Reading

section

variable {verb : Verb} {r : Reading} {given : List (Setting × String)}

theorem readWord_long {x : Setting} (hx : x ∈ verb.settings) (r : Reading) :
    readWord verb r (String.ofList ('-' :: '-' :: x.long.toList)) = r.begin x none := by
  rw [readWord, String.toList_ofList]
  simp only [readLong, cutAtEquals_of_not_mem x.equals_not_mem_long, String.ofList_toList,
    Verb.find?_long hx]

theorem readWord_longEquals {x : Setting} (hx : x ∈ verb.settings) (r : Reading)
    (value : List Char) :
    readWord verb r (String.ofList ('-' :: '-' :: (x.long.toList ++ '=' :: value))) =
      r.begin x (some (String.ofList value)) := by
  rw [readWord, String.toList_ofList]
  simp only [readLong, cutAtEquals_append x.equals_not_mem_long, String.ofList_toList,
    Verb.find?_long hx]

theorem readWord_short {x : Setting} (hx : x ∈ verb.settings) (r : Reading) (rest : List Char) :
    readWord verb r (String.ofList ('-' :: x.short :: rest)) = r.begin x (attached? rest) := by
  rw [readWord, String.toList_ofList]
  split
  next h =>
    exact absurd (List.head_eq_of_cons_eq (List.tail_eq_of_cons_eq h)) x.short_ne_hyphen
  next letter rest' _ h =>
    obtain ⟨rfl, rfl⟩ := List.cons.inj (List.tail_eq_of_cons_eq h)
    rw [readShort, Verb.find?_short hx]
  next _ h => exact absurd rfl (h x.short rest)

theorem readWord_value {value : String} (h : value.toList.head? = some '-' → value = "-")
    (x : Setting) : readWord verb ⟨given, some (x, none)⟩ value =
      .ok ⟨given, some (x, some value)⟩ := by
  have hword : ∀ c cs, value.toList ≠ '-' :: c :: cs := by
    intro c cs heq
    rw [heq] at h
    rw [h rfl] at heq
    cases heq
  rw [readWord]
  split
  next heq => exact absurd heq (hword _ _)
  next heq => exact absurd heq (hword _ _)
  next => rfl

theorem attached?_of_head (cs : List Char) (hcs : cs ≠ []) (h : cs.head? ≠ some '=') :
    attached? cs = some (String.ofList cs) := by
  cases cs with
  | nil => exact absurd rfl hcs
  | cons c cs =>
      have hc : c ≠ '=' := fun hc => h (congrArg some hc)
      rw [attached?, if_neg (by simp), Text.expect_cons_of_ne hc]
      rfl

theorem attached?_equals (cs : List Char) : attached? ('=' :: cs) = some (String.ofList cs) := by
  rw [attached?, if_neg (by simp), Text.expect, if_pos rfl]
  rfl

/-- A word that is not the separator is read, and then the words behind it. -/
theorem readWords_cons {word : String} (hword : word ≠ "--") {r' : Reading}
    (h : readWord verb r word = .ok r') (rest : List String) :
    readWords verb r (word :: rest) = readWords verb r' rest := by
  rw [readWords, if_neg hword, h]
  rfl

theorem ofList_ne_separator {c : Char} {cs : List Char} (h : c ≠ '-' ∨ cs ≠ []) :
    String.ofList ('-' :: c :: cs) ≠ "--" := by
  intro heq
  have hlist : '-' :: c :: cs = ['-', '-'] := by
    rw [← String.toList_ofList (l := '-' :: c :: cs), heq]
    rfl
  obtain ⟨rfl, rfl⟩ := List.cons.inj (List.tail_eq_of_cons_eq hlist)
  exact h.elim (· rfl) (· rfl)

/-- The words of an option add it to what has been read. -/
theorem readWords_option {o : GivenOption} (hr : r.Holds given) (ho : o.Readable)
    (hsetting : o.setting ∈ verb.settings) (hnew : given.lookup o.setting = none)
    (hvalue : o.value ≠ "") (rest : List String) : ∃ r' : Reading,
      r'.Holds (given ++ [(o.setting, o.value)]) ∧
        readWords verb r (o.words ++ rest) = readWords verb r' rest := by
  have hlong : ∀ cs, String.ofList ('-' :: '-' :: (o.setting.long.toList ++ cs)) ≠ "--" :=
    fun cs => ofList_ne_separator
      (.inr (List.append_ne_nil_of_left_ne_nil o.setting.long_ne_nil cs))
  have hshort : ∀ cs, String.ofList ('-' :: o.setting.short :: cs) ≠ "--" :=
    fun cs => ofList_ne_separator (.inl o.setting.short_ne_hyphen)
  have hseparate : (o.value.toList.head? = some '-' → o.value = "-") → ∃ r' : Reading,
      r'.Holds (given ++ [(o.setting, o.value)]) ∧
        readWords verb ⟨given, some (o.setting, none)⟩ (o.value :: rest) =
          readWords verb r' rest := by
    intro hfirst
    have hword : o.value ≠ "--" := by
      intro heq
      rw [heq] at hfirst
      exact absurd (hfirst rfl) (by decide)
    exact ⟨_, Reading.holds_open hnew hvalue, readWords_cons hword (readWord_value hfirst _) rest⟩
  obtain ⟨r', hbegin, hholds⟩ := hr.begin_attached hnew hvalue
  have hattached : ∀ word, word ≠ "--" → readWord verb r word = r.begin o.setting (some o.value) →
      ∃ r' : Reading, r'.Holds (given ++ [(o.setting, o.value)]) ∧
        readWords verb r (word :: rest) = readWords verb r' rest :=
    fun word hword hread => ⟨r', hholds, readWords_cons hword (hread.trans hbegin) rest⟩
  obtain ⟨setting, value, form⟩ := o
  cases form with
  | long =>
      obtain ⟨r', hholds, hrest⟩ := hseparate ho
      refine ⟨r', hholds, Eq.trans ?_ hrest⟩
      have hword := hlong []
      rw [List.append_nil] at hword
      exact readWords_cons hword ((readWord_long hsetting r).trans hr.begin_open) _
  | short =>
      obtain ⟨r', hholds, hrest⟩ := hseparate ho
      refine ⟨r', hholds, Eq.trans ?_ hrest⟩
      exact readWords_cons (hshort []) ((readWord_short hsetting r []).trans hr.begin_open) _
  | longEquals =>
      refine hattached _ (hlong _) ((readWord_longEquals hsetting r _).trans ?_)
      rw [String.ofList_toList]
  | shortEquals =>
      refine hattached _ (hshort _) ((readWord_short hsetting r _).trans ?_)
      rw [attached?_equals, String.ofList_toList]
  | shortAttached =>
      refine hattached _ (hshort _) ((readWord_short hsetting r _).trans ?_)
      have hne : value.toList ≠ [] := fun h => hvalue (String.toList_eq_nil_iff.mp h)
      rw [attached?_of_head _ hne ho, String.ofList_toList]

/-- Options for different settings are read as these settings, in whatever form and order they are
written. -/
theorem readWords_options {os : List GivenOption} (hr : r.Holds given)
    (hread : ∀ o ∈ os, o.Readable ∧ o.setting ∈ verb.settings ∧ o.value ≠ "")
    (hnodup : (os.map (·.setting)).Nodup) (hnew : ∀ o ∈ os, given.lookup o.setting = none) :
    readWords verb r (os.flatMap (·.words)) =
      .ok ⟨given ++ os.map fun o => (o.setting, o.value), none⟩ := by
  induction os generalizing r given with
  | nil =>
      rw [List.map_nil, List.append_nil]
      exact hr
  | cons o os ih =>
      rw [List.forall_mem_cons] at hread hnew
      rw [List.map_cons, List.nodup_cons] at hnodup
      obtain ⟨⟨hreadable, hsetting, hvalue⟩, hrest⟩ := hread
      obtain ⟨r', hholds, hwords⟩ := readWords_option hr hreadable hsetting hnew.1 hvalue
        (os.flatMap (·.words))
      rw [List.flatMap_cons, hwords, ih hholds hrest hnodup.2 fun o' ho' => ?_, List.map_cons,
        List.append_assoc]
      · rfl
      · have hother : o'.setting ≠ o.setting :=
          fun heq => hnodup.1 (heq ▸ List.mem_map_of_mem ho')
        rw [lookup_concat, hnew.2 o' ho', Option.none_or, if_neg hother]

end

end LoadScenario
