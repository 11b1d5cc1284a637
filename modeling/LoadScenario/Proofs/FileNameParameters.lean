import LoadScenario.Proofs.DispositionHeaders

/-!
# File names in disposition headers

The parameter that names a file is recognised by its name, an asterisk if there is one, and an
equals sign, and nothing of this has a semicolon in it. So the search passes over the disposition
type, whatever that is called, and what follows the next semicolon never gets into the value.

The value may be a name as it is, a name behind a character set and a language, or a name in quotes.
The first two are told apart by the single quotes, which a plain name has none of. For a quoted name
no note is taken of which quote began it, and a semicolon ends it as it ends a plain one: a name
between double quotes is read as it stands if and only if it has neither a single quote nor a
semicolon in it.

The value is that of the first disposition header, but a header whose key is given again has the
value that comes last.
-/

namespace LoadScenario

open Text

namespace Text

theorem expectAnyCase_append {w word : List Char} (h : word.map Char.toLower = w)
    (rest : List Char) : expectAnyCase w (word ++ rest) = some rest := by
  subst h
  induction word with
  | nil => rfl
  | cons c word ih => rw [List.map_cons, List.cons_append, expectAnyCase, if_pos rfl, ih]

theorem exists_word_of_expectAnyCase {w cs rest : List Char}
    (h : expectAnyCase w cs = some rest) :
    ∃ word, word.map Char.toLower = w ∧ cs = word ++ rest := by
  induction w generalizing cs with
  | nil =>
      cases h
      exact ⟨[], rfl, rfl⟩
  | cons d w ih =>
      cases cs with
      | nil => cases h
      | cons c cs =>
          rw [expectAnyCase] at h
          split at h
          next hc =>
            obtain ⟨word, hword, rfl⟩ := ih h
            exact ⟨c :: word, by rw [List.map_cons, hc, hword], rfl⟩
          next => cases h

end Text

/-! ## Where the parameter stands -/

/-- The parameter has no semicolon in front of its equals sign. -/
theorem exists_equals_of_filenameParameter {previous : Option Char} {cs : List Char}
    {answer : List Char × List Char} (h : filenameParameter previous cs = some answer) :
    ∃ sign rest, cs = sign ++ '=' :: rest ∧ ';' ∉ sign := by
  obtain ⟨behind, hword, h⟩ := Option.bind_eq_some_iff.mp h
  obtain ⟨rest, hequals, -⟩ := Option.bind_eq_some_iff.mp h
  obtain ⟨word, hletters, rfl⟩ := exists_word_of_expectAnyCase hword
  obtain ⟨gap, hgap, hbehind⟩ := exists_gap_of_expect hequals
  have hword : ';' ∉ word := fun hmem => by
    have hlower := List.mem_map_of_mem (f := Char.toLower) hmem
    rw [hletters] at hlower
    exact absurd hlower (by decide)
  have hblank : ';' ∉ gap := fun hmem => absurd (hgap _ hmem) (by decide)
  cases hstar : expect ['*'] behind with
  | none =>
      rw [hstar] at hbehind
      refine ⟨word ++ gap, rest, ?_, by simp [hword, hblank]⟩
      rw [List.append_assoc, ← hbehind]
      rfl
  | some behind' =>
      rw [hstar, Option.getD_some] at hbehind
      refine ⟨word ++ '*' :: gap, rest, ?_, by simp [hword, hblank]⟩
      rw [expect_eq_some_iff.mp hstar, hbehind, List.append_assoc]
      rfl

theorem filenameParameter_eq_none {front : List Char} (h : '=' ∉ front) (previous : Option Char)
    (rest : List Char) : filenameParameter previous (front ++ ';' :: rest) = none := by
  rw [Option.eq_none_iff_forall_ne_some]
  intro answer hanswer
  obtain ⟨sign, rest', htext, hsign⟩ := exists_equals_of_filenameParameter hanswer
  rcases List.append_eq_append_iff.mp htext with ⟨between, rfl, hrest⟩ | ⟨between, rfl, hrest⟩
  · cases between with
    | nil => exact absurd (List.cons.inj hrest).1 (by decide)
    | cons c between =>
        obtain ⟨rfl, -⟩ := List.cons.inj hrest
        exact hsign (by simp)
  · cases between with
    | nil => exact absurd (List.cons.inj hrest).1 (by decide)
    | cons c between =>
        obtain ⟨rfl, -⟩ := List.cons.inj hrest
        exact h (by simp)

/-- The disposition type is passed over. -/
theorem find?_filenameParameter {kind text name rest : List Char} (hkind : '=' ∉ kind)
    (h : ∀ previous, filenameParameter previous text = some (name, rest)) :
    find? filenameParameter (kind ++ ';' :: ' ' :: text) = some name := by
  rw [find?]
  generalize none = previous
  induction kind generalizing previous with
  | nil =>
      have hsemicolon := filenameParameter_eq_none List.not_mem_nil previous (' ' :: text)
      rw [List.nil_append] at hsemicolon ⊢
      have hspace : filenameParameter (some ';') (' ' :: text) = none := rfl
      rw [findFrom, hsemicolon]
      simp only
      rw [findFrom, hspace]
      simp only
      cases text with
      | nil => cases h none
      | cons c text => rw [findFrom, h]
  | cons c kind ih =>
      have hnone := filenameParameter_eq_none hkind previous (' ' :: text)
      rw [List.mem_cons, not_or] at hkind
      rw [List.cons_append] at hnone ⊢
      rw [findFrom, hnone]
      exact ih hkind.2 (some c)

/-! ## What its value is -/

/-- The parameter as it may be written is read if something can be made of its value. -/
theorem filenameParameter_written {word star before after value : List Char}
    {answer : List Char × List Char} (hword : word.map Char.toLower = "filename".toList)
    (hstar : star = [] ∨ star = ['*']) (hbefore : ∀ c ∈ before, isBlank c)
    (hafter : ∀ c ∈ after, isBlank c) (hvalue : ∀ c ∈ value.head?, isBlank c = false)
    (hanswer : ((afterCharset value).bind parameterValue).or (parameterValue value) = some answer)
    (previous : Option Char) :
    filenameParameter previous (word ++ (star ++ (before ++ '=' :: (after ++ value)))) =
      some answer := by
  have hequals := expect_gap hbefore (c := '=') (by decide) (after ++ value)
  have hskip : skipBlank (after ++ value) = value := by
    rw [skipBlank, List.dropWhile_append_of_pos hafter]
    exact skipBlank_of_head hvalue
  generalize hsign : before ++ '=' :: (after ++ value) = sign at hequals
  have hdropped : (expect ['*'] (star ++ sign)).getD (star ++ sign) = sign := by
    rcases hstar with rfl | rfl
    · have hnone : expect ['*'] sign = none := by
        rw [← hsign]
        cases before with
        | nil => rfl
        | cons c before =>
            refine expect_cons_of_ne ?_
            rintro rfl
            exact absurd (hbefore _ List.mem_cons_self) (by decide)
      rw [List.nil_append, hnone]
      rfl
    · rw [expect_eq_some_iff.mpr rfl]
      rfl
  rw [filenameParameter, expectAnyCase_append hword, Option.bind_eq_bind, Option.bind_some,
    hdropped]
  simp only [hequals, Option.bind_some, hskip]
  cases hcharset : (afterCharset value).bind parameterValue with
  | some found =>
      rw [hcharset] at hanswer
      exact hanswer
  | none =>
      rw [hcharset, Option.none_or] at hanswer
      rw [hanswer]

theorem parameterValue_eq {cs name rest : List Char} (h : dropQuote cs = name ++ rest)
    (hname : name ≠ [] ∧ ∀ c ∈ name, inParameter c)
    (hrest : ∀ c ∈ rest.head?, inParameter c = false) : parameterValue cs = some (name, rest) := by
  obtain ⟨htake, hdrop⟩ := span_append hname.2 rest hrest
  rw [parameterValue, h, htake, hdrop]
  cases name with
  | nil => exact absurd rfl hname.1
  | cons c name => rfl

theorem dispositionFilename?_of_find? {value : String} {name : List Char}
    (h : find? filenameParameter value.toList = some name) (hne : name ≠ [])
    (hname : Unpadded name) : dispositionFilename? value = some (String.ofList name) := by
  rw [dispositionFilename?, h, Option.bind_some, hname.trim_eq, if_neg]
  rwa [List.isEmpty_iff]

theorem inParameter_of_parameterValue {cs name rest : List Char}
    (h : parameterValue cs = some (name, rest)) : ∀ c ∈ name, inParameter c := by
  rw [parameterValue] at h
  split at h
  next => cases h
  next =>
    cases h
    exact fun c hc => List.mem_takeWhile_imp hc

theorem inParameter_of_filenameParameter {previous : Option Char} {cs name rest : List Char}
    (h : filenameParameter previous cs = some (name, rest)) : ∀ c ∈ name, inParameter c := by
  obtain ⟨behind, -, h⟩ := Option.bind_eq_some_iff.mp h
  obtain ⟨text, -, h⟩ := Option.bind_eq_some_iff.mp h
  simp only at h
  split at h
  next hcharset =>
    cases h
    obtain ⟨value, -, hvalue⟩ := Option.bind_eq_some_iff.mp hcharset
    exact inParameter_of_parameterValue hvalue
  next =>
    split at h
    next hvalue =>
      cases h
      exact inParameter_of_parameterValue hvalue
    next =>
      split at h
      next =>
        cases h
        exact List.forall_mem_nil _
      next => cases h

/-- Whatever a header says, no quote and no semicolon is in the name that is read from it. -/
theorem inParameter_of_dispositionFilename? {value name : String}
    (h : dispositionFilename? value = some name) : ∀ c ∈ name.toList, inParameter c := by
  obtain ⟨found, hfound, h⟩ := Option.bind_eq_some_iff.mp h
  obtain ⟨previous, cs, rest, hparameter⟩ := recognized_of_find? hfound
  split at h
  next => cases h
  next =>
    cases h
    rw [String.toList_ofList]
    exact fun c hc => inParameter_of_filenameParameter hparameter c (trim_subset found hc)

/-! ## Names in quotes -/

theorem head?_translate {further : List Char} (h : ∀ c ∈ further.head?, c = ';') :
    ∀ c ∈ (translate (String.ofList further)).toList.head?, c = ';' := by
  cases further with
  | nil => exact nofun
  | cons c further =>
      obtain rfl := h c rfl
      have hsemicolon : '\x7b' ∉ [';'] := by decide
      have hhead := translate_append hsemicolon further
      rw [List.singleton_append] at hhead
      rw [hhead, String.toList_ofList]
      rintro _ ⟨⟩
      rfl

theorem inParameter_iff {c : Char} : inParameter c ↔ c ≠ '"' ∧ c ≠ '\x27' ∧ c ≠ ';' := by
  simp [inParameter, and_assoc]

def quotedOpening : String := "attachment; filename=\""

/-- The value of a disposition header with a file name between double quotes. -/
def quotedDisposition (name further : String) : String :=
  quotedOpening ++ name ++ "\"" ++ further

theorem toList_quotedDisposition (name further : String) :
    (quotedDisposition name further).toList =
      quotedOpening.toList ++ (name.toList ++ '"' :: further.toList) := by
  rw [quotedDisposition, String.toList_append, String.toList_append, String.toList_append,
    List.append_assoc, List.append_assoc]
  rfl

theorem translate_quotedDisposition {name : String} (hname : '\x7b' ∉ name.toList)
    (further : String) :
    translate (quotedDisposition name further) = quotedDisposition name (translate further) := by
  have hfront : '\x7b' ∉ quotedOpening.toList ++ (name.toList ++ ['"']) := by
    have hopening : '\x7b' ∉ quotedOpening.toList := by decide
    simp [hopening, hname]
  have htext : ∀ text : String, quotedDisposition name text =
      String.ofList (quotedOpening.toList ++ (name.toList ++ ['"']) ++ text.toList) := by
    intro text
    rw [← String.ofList_toList (s := quotedDisposition name text), toList_quotedDisposition]
    simp only [List.append_assoc, List.singleton_append]
  rw [htext, htext, translate_append hfront, String.ofList_toList]

theorem read_quoted {name : List Char} (hname : name ≠ [] ∧ ∀ c ∈ name, inParameter c)
    (rest : List Char) :
    ((afterCharset ('"' :: (name ++ '"' :: rest))).bind parameterValue).or
      (parameterValue ('"' :: (name ++ '"' :: rest))) = some (name, '"' :: rest) := by
  have hcharset : afterCharset ('"' :: (name ++ '"' :: rest)) = none := rfl
  have hvalue : parameterValue ('"' :: (name ++ '"' :: rest)) = some (name, '"' :: rest) := by
    refine parameterValue_eq rfl hname ?_
    rintro _ ⟨⟩
    rfl
  rw [hcharset, Option.bind_none, Option.none_or, hvalue]

theorem dispositionFilename?_quoted {name : String} (hne : name ≠ "")
    (hname : Unpadded name.toList) (hplain : ∀ c ∈ name.toList, inParameter c) (further : String) :
    dispositionFilename? (quotedDisposition name further) = some name := by
  have hchars : name.toList ≠ [] := by
    rwa [Ne, String.toList_eq_nil_iff]
  have hword : "filename".toList.map Char.toLower = "filename".toList := by decide
  have hkind : '=' ∉ "attachment".toList := by decide
  have hquote : ∀ c ∈ ('"' :: (name.toList ++ '"' :: further.toList)).head?, isBlank c = false := by
    rintro _ ⟨⟩
    decide
  have hread := filenameParameter_written hword (.inl rfl) (List.forall_mem_nil _)
    (List.forall_mem_nil _) hquote (read_quoted ⟨hchars, hplain⟩ further.toList)
  have hfind := find?_filenameParameter hkind hread
  have htext : "attachment".toList ++ ';' :: ' ' :: ("filename".toList ++ ([] ++ ([] ++ '=' ::
      ([] ++ '"' :: (name.toList ++ '"' :: further.toList))))) =
        (quotedDisposition name further).toList := by
    rw [toList_quotedDisposition]
    rfl
  rw [htext] at hfind
  rw [dispositionFilename?_of_find? hfind hchars hname, String.ofList_toList]

namespace RequestRecord

/-- A file name between double quotes is read as it is written if and only if it has neither a
single quote nor a semicolon in it: both end the value. -/
theorem quoted_name_kept_iff {r : RequestRecord} {name further : String}
    (hmode : r.bodyMode = some "binary")
    (hheader : r.disposition? = some (quotedDisposition name further))
    (hname : name ≠ "" ∧ Unpadded name.toList) (hquote : '"' ∉ name.toList)
    (hbrace : '\x7b' ∉ name.toList) :
    r.request.body = some ⟨name, none⟩ ↔ '\x27' ∉ name.toList ∧ ';' ∉ name.toList := by
  rw [body_of_disposition hmode hheader, translate_quotedDisposition hbrace]
  constructor
  · intro hbody
    have hkept : (dispositionFilename? (quotedDisposition name (translate further))).getD
        unnamedBody = name := by
      simpa using hbody
    have hplain : ∀ c ∈ name.toList, inParameter c := by
      cases hread : dispositionFilename? (quotedDisposition name (translate further)) with
      | none =>
          rw [hread] at hkept
          rw [← hkept]
          decide
      | some found =>
          rw [hread] at hkept
          rw [← hkept]
          exact inParameter_of_dispositionFilename? hread
    exact ⟨fun h => (inParameter_iff.mp (hplain _ h)).2.1 rfl,
      fun h => (inParameter_iff.mp (hplain _ h)).2.2 rfl⟩
  · rintro ⟨hsingle, hsemicolon⟩
    have hplain : ∀ c ∈ name.toList, inParameter c := fun c hc => inParameter_iff.mpr
      ⟨fun h => hquote (h ▸ hc), fun h => hsingle (h ▸ hc), fun h => hsemicolon (h ▸ hc)⟩
    rw [dispositionFilename?_quoted hname.1 hname.2 hplain, Option.getD_some]

/-- A request that sends a file as it is, with a header block and not much else. -/
def upload (headers : String) : RequestRecord :=
  { headed none headers with bodyMode := some "binary" }

/-- A name with white space in it, and a second parameter behind. -/
theorem quoted_name_kept_upload :
    let r := upload "Accept: */*\nContent-Disposition: attachment; filename=\"a photo.txt\"; size=3"
    r.disposition? = some (quotedDisposition "a photo.txt" "; size=3") ∧
      r.request.body = some ⟨"a photo.txt", none⟩ := by
  intro r
  have hheader : r.disposition? = some (quotedDisposition "a photo.txt" "; size=3") := by
    decide +kernel
  have hplain : '\x27' ∉ "a photo.txt".toList ∧ ';' ∉ "a photo.txt".toList := by decide
  exact ⟨hheader, (quoted_name_kept_iff rfl hheader (by decide) (by decide) (by decide)).mpr hplain⟩

/-- Of a name with an apostrophe only the part before it is left. -/
theorem quoted_name_cut :
    let r := upload "Content-Disposition: attachment; filename=\"it\x27s me.txt\""
    r.disposition? = some (quotedDisposition "it\x27s me.txt" "") ∧
      r.request.body = some ⟨"it", none⟩ := by
  decide +kernel

end RequestRecord

/-! ## Names without quotes -/

/-- Whether a character may stand in a file name that needs no quotes. -/
def inFileName (c : Char) : Bool := isSafe c || c = '.' || c = '_'

theorem inFileName_of_isSafe {c : Char} (h : isSafe c) : inFileName c := by
  rw [inFileName, h]
  rfl

theorem toNat_lt_of_inFileName {c : Char} (h : inFileName c) : c.toNat < 128 := by
  simp only [inFileName, isSafe, Char.isAlphanum, Bool.or_eq_true, decide_eq_true_eq] at h
  rcases h with ((((halpha | hdigit) | rfl) | rfl) | rfl)
  · exact toNat_lt_of_isAlpha halpha
  · have hle : c.val ≤ '9'.val := of_decide_eq_true (Bool.and_eq_true_iff.mp hdigit).2
    exact Nat.lt_of_le_of_lt hle (by decide)
  all_goals decide

/-- Such a character may stand in a parameter and in the name of a character set, so that neither
the search for one nor the value ends at it. -/
theorem inParameter_of_inFileName {c : Char} (h : inFileName c) :
    inParameter c ∧ inCharset c ∧ isBlank c = false :=
  forall_of_toNat_lt
    (p := fun c => inFileName c → inParameter c ∧ inCharset c ∧ isBlank c = false)
    (by decide +kernel) (toNat_lt_of_inFileName h) h

theorem inLanguage_of_isSafe {c : Char} (h : isSafe c) : inLanguage c :=
  forall_of_toNat_lt (p := fun c => isSafe c → inLanguage c) (by decide +kernel)
    (toNat_lt_of_inFileName (inFileName_of_isSafe h)) h

/-- A disposition header that gives a file name without quotes, alone or behind a character set and
a language. -/
structure BareDisposition where
  kind : List Char
  /-- The name of the parameter, in any case. -/
  parameter : List Char
  beforeEquals : List Char
  afterEquals : List Char
  /-- The character set and the language of the extended form. -/
  tags : Option (List Char × List Char)
  name : List Char
  /-- What stands behind the name. -/
  further : List Char

namespace BareDisposition

/-- The asterisk of the extended form. -/
def star (d : BareDisposition) : List Char := if d.tags.isSome then ['*'] else []

/-- The character set and the language, each with the single quote behind it. -/
def tagged (d : BareDisposition) : List Char :=
  match d.tags with
  | none => []
  | some (charset, language) => charset ++ '\x27' :: (language ++ ['\x27'])

def front (d : BareDisposition) : List Char :=
  d.kind ++ ';' :: ' ' :: (d.parameter ++ (d.star ++ (d.beforeEquals ++ '=' ::
    (d.afterEquals ++ (d.tagged ++ d.name)))))

/-- The value of the header. -/
def text (d : BareDisposition) : String := String.ofList (d.front ++ d.further)

structure Readable (d : BareDisposition) : Prop where
  kind : ∀ c ∈ d.kind, c.isAlpha
  parameter : d.parameter.map Char.toLower = "filename".toList
  beforeEquals : ∀ c ∈ d.beforeEquals, isBlank c
  afterEquals : ∀ c ∈ d.afterEquals, isBlank c
  tags : ∀ tags ∈ d.tags, (∀ c ∈ tags.1, isSafe c) ∧ ∀ c ∈ tags.2, isSafe c
  name : d.name ≠ [] ∧ ∀ c ∈ d.name, inFileName c
  further : ∀ c ∈ d.further.head?, c = ';'

variable {d : BareDisposition}

theorem not_mem_star {c : Char} (hc : c ≠ '*') (d : BareDisposition) : c ∉ d.star := by
  rw [star]
  split
  next => exact fun h => hc (List.mem_singleton.mp h)
  next => exact List.not_mem_nil

theorem Readable.not_mem_tagged (h : d.Readable) {c : Char} (hsafe : isSafe c = false)
    (hquote : c ≠ '\x27') : c ∉ d.tagged := by
  have hword : ∀ cs : List Char, (∀ c ∈ cs, isSafe c) → c ∉ cs := fun cs hcs hmem => by
    rw [hcs c hmem] at hsafe
    cases hsafe
  rw [tagged]
  cases htags : d.tags with
  | none => exact List.not_mem_nil
  | some tags =>
      obtain ⟨hcharset, hlanguage⟩ := h.tags tags htags
      simp [hword _ hcharset, hword _ hlanguage, hquote]

/-- Nothing up to the end of the name begins a placeholder. -/
theorem Readable.brace_not_mem (h : d.Readable) : '\x7b' ∉ d.front := by
  have hkind : '\x7b' ∉ d.kind := fun hmem => absurd (h.kind _ hmem) (by decide)
  have hparameter : '\x7b' ∉ d.parameter := fun hmem => by
    have hlower := List.mem_map_of_mem (f := Char.toLower) hmem
    rw [h.parameter] at hlower
    exact absurd hlower (by decide)
  have hbefore : '\x7b' ∉ d.beforeEquals := fun hmem => absurd (h.beforeEquals _ hmem) (by decide)
  have hafter : '\x7b' ∉ d.afterEquals := fun hmem => absurd (h.afterEquals _ hmem) (by decide)
  have hname : '\x7b' ∉ d.name := fun hmem => absurd (h.name.2 _ hmem) (by decide)
  have hstar := d.not_mem_star (c := '\x7b') (by decide)
  have htagged := h.not_mem_tagged (c := '\x7b') (by decide) (by decide)
  simp [front, hkind, hparameter, hbefore, hafter, hname, hstar, htagged]

/-- The same header with something else behind the name. -/
def withFurther (d : BareDisposition) (further : List Char) : BareDisposition :=
  { d with further }

theorem Readable.withFurther (h : d.Readable) {further : List Char}
    (hfurther : ∀ c ∈ further.head?, c = ';') : (d.withFurther further).Readable :=
  ⟨h.kind, h.parameter, h.beforeEquals, h.afterEquals, h.tags, h.name, hfurther⟩

theorem text_withFurther (d : BareDisposition) (further : List Char) :
    (d.withFurther further).text = String.ofList (d.front ++ further) := rfl

theorem name_withFurther (d : BareDisposition) (further : List Char) :
    (d.withFurther further).name = d.name := rfl

theorem Readable.translate_text (h : d.Readable) :
    translate d.text = (d.withFurther (translate (String.ofList d.further)).toList).text := by
  rw [text, translate_append h.brace_not_mem, text_withFurther]

/-- The name is all that is read of the value: what looks like a character set is one. -/
theorem Readable.read_value (h : d.Readable) :
    ((afterCharset (d.tagged ++ (d.name ++ d.further))).bind parameterValue).or
      (parameterValue (d.tagged ++ (d.name ++ d.further))) = some (d.name, d.further) := by
  have hfirst : dropQuote (d.name ++ d.further) = d.name ++ d.further := by
    cases hchars : d.name with
    | nil => exact absurd hchars h.name.1
    | cons c name =>
        have hc := inParameter_iff.mp
          (inParameter_of_inFileName (h.name.2 c (hchars ▸ List.mem_cons_self))).1
        rw [List.cons_append, dropQuote, if_neg (not_or.mpr ⟨hc.1, hc.2.1⟩)]
  have hvalue : parameterValue (d.name ++ d.further) = some (d.name, d.further) := by
    refine parameterValue_eq hfirst
      ⟨h.name.1, fun c hc => (inParameter_of_inFileName (h.name.2 c hc)).1⟩ fun c hc => ?_
    rw [h.further c hc]
    rfl
  rw [tagged]
  cases htags : d.tags with
  | none =>
      have hbehind : (d.name ++ d.further).dropWhile inCharset = d.further := by
        refine (span_append (fun c hc => (inParameter_of_inFileName (h.name.2 c hc)).2.1) _
          fun c hc => ?_).2
        rw [h.further c hc]
        rfl
      have hcharset : afterCharset (d.name ++ d.further) = none := by
        rw [afterCharset, hbehind]
        cases hfurther : d.further with
        | nil => rfl
        | cons c further =>
            obtain rfl := h.further c (hfurther ▸ rfl)
            rfl
      rw [List.nil_append, hcharset, Option.bind_none, Option.none_or, hvalue]
  | some tags =>
      obtain ⟨hcharset, hlanguage⟩ := h.tags tags htags
      have hquote : ∀ rest : List Char, ∀ c ∈ ('\x27' :: rest).head?, inCharset c = false := by
        rintro _ _ ⟨⟩
        rfl
      have hquote' : ∀ rest : List Char, ∀ c ∈ ('\x27' :: rest).head?, inLanguage c = false := by
        rintro _ _ ⟨⟩
        rfl
      have hbehind : afterCharset (tags.1 ++ '\x27' :: (tags.2 ++ '\x27' ::
          (d.name ++ d.further))) = some (d.name ++ d.further) := by
        rw [afterCharset, (span_append (fun c hc => (inParameter_of_inFileName
          (inFileName_of_isSafe (hcharset c hc))).2.1) _ (hquote _)).2]
        show expect ['\x27'] ((tags.2 ++ '\x27' :: (d.name ++ d.further)).dropWhile inLanguage) = _
        rw [(span_append (fun c hc => inLanguage_of_isSafe (hlanguage c hc)) _ (hquote' _)).2]
        rfl
      have htext : tags.1 ++ '\x27' :: (tags.2 ++ ['\x27']) ++ (d.name ++ d.further) =
          tags.1 ++ '\x27' :: (tags.2 ++ '\x27' :: (d.name ++ d.further)) := by
        simp
      simp only [htext]
      rw [hbehind, Option.bind_some, hvalue]
      rfl

theorem Readable.isBlank_of_mem_name (h : d.Readable) {c : Char} (hc : c ∈ d.name) :
    isBlank c = false :=
  (inParameter_of_inFileName (h.name.2 c hc)).2.2

theorem Readable.isBlank_head (h : d.Readable) :
    ∀ c ∈ (d.tagged ++ (d.name ++ d.further)).head?, isBlank c = false := by
  intro c hc
  rw [tagged] at hc
  cases htags : d.tags with
  | none =>
      simp only [htags] at hc
      rw [List.nil_append, List.head?_append_of_ne_nil _ h.name.1] at hc
      exact h.isBlank_of_mem_name (List.mem_of_mem_head? hc)
  | some tags =>
      obtain ⟨charset, language⟩ := tags
      simp only [htags] at hc
      cases charset with
      | nil =>
          cases hc
          rfl
      | cons b charset =>
          cases hc
          have hsafe := (h.tags _ htags).1 c List.mem_cons_self
          exact (inParameter_of_inFileName (inFileName_of_isSafe hsafe)).2.2

theorem Readable.dispositionFilename?_eq (h : d.Readable) :
    dispositionFilename? d.text = some (String.ofList d.name) := by
  have hkind : '=' ∉ d.kind := fun hmem => absurd (h.kind _ hmem) (by decide)
  have hstar : d.star = [] ∨ d.star = ['*'] := by
    rw [star]
    split
    next => exact .inr rfl
    next => exact .inl rfl
  have hread := filenameParameter_written h.parameter hstar h.beforeEquals h.afterEquals
    h.isBlank_head h.read_value
  have htext : d.kind ++ ';' :: ' ' :: (d.parameter ++ (d.star ++ (d.beforeEquals ++ '=' ::
      (d.afterEquals ++ (d.tagged ++ (d.name ++ d.further)))))) = d.text.toList := by
    rw [text, front, String.toList_ofList]
    simp only [List.append_assoc, List.cons_append]
  have hfind := find?_filenameParameter hkind hread
  rw [htext] at hfind
  exact dispositionFilename?_of_find? hfind h.name.1
    ⟨fun c hc => h.isBlank_of_mem_name (List.mem_of_mem_head? hc),
      fun c hc => h.isBlank_of_mem_name (List.mem_of_mem_getLast? hc)⟩

end BareDisposition

namespace RequestRecord

/-- Without quotes a file name is read as it is written, in both forms of the parameter and whatever
other parameters follow. -/
theorem bare_name_kept {r : RequestRecord} {d : BareDisposition}
    (hmode : r.bodyMode = some "binary") (hheader : r.disposition? = some d.text)
    (hd : d.Readable) :
    r.request.body = some ⟨String.ofList d.name, none⟩ := by
  have hfurther := head?_translate hd.further
  rw [body_of_disposition hmode hheader, hd.translate_text,
    (hd.withFurther hfurther).dispositionFilename?_eq, Option.getD_some,
    BareDisposition.name_withFurther]

/-- The extended form, with a parameter in capital letters and a second one behind. -/
def extendedDisposition : BareDisposition where
  kind := "inline".toList
  parameter := "FileName".toList
  beforeEquals := [' ']
  afterEquals := ['\t', ' ']
  tags := some ("utf-8".toList, [])
  name := "a_1.tar.gz".toList
  further := "; filename=b".toList

def extendedUpload : RequestRecord :=
  upload "CONTENT-disposition : inline; FileName* =\t utf-8\x27\x27a_1.tar.gz; filename=b"

theorem bare_name_kept_upload :
    extendedDisposition.Readable ∧ extendedUpload.disposition? = some extendedDisposition.text ∧
      extendedUpload.request.body = some ⟨"a_1.tar.gz", none⟩ := by
  have hd : extendedDisposition.Readable := by
    refine ⟨by decide, by decide, by decide, by decide, ?_, by decide, ?_⟩
    · rintro _ ⟨⟩
      exact ⟨by decide, by decide⟩
    · rintro _ ⟨⟩
      rfl
  have hheader : extendedUpload.disposition? = some extendedDisposition.text := by
    decide +kernel
  have hname : String.ofList extendedDisposition.name = "a_1.tar.gz" := by decide +kernel
  have hbody := bare_name_kept rfl hheader hd
  rw [hname] at hbody
  exact ⟨hd, hheader, hbody⟩

/-- A disposition with nothing but a file name. -/
def plainDisposition (name : String) : BareDisposition :=
  ⟨"attachment".toList, "filename".toList, [], [], none, name.toList, []⟩

/-- The key of the first disposition header is given a second time. -/
def repeatedUpload : RequestRecord :=
  upload ("Content-Disposition: attachment; filename=a.txt\n" ++
    "Content-Disposition: attachment; filename=b.txt")

/-- The name in the first header is not kept if the header is given again. -/
theorem name_replaced_repeatedUpload :
    (plainDisposition "a.txt").Readable ∧
      (headerLines repeatedUpload.headers).find? (fun header => isDisposition header.1) =
        some ("Content-Disposition", (plainDisposition "a.txt").text) ∧
      repeatedUpload.request.body = some ⟨"b.txt", none⟩ := by
  have hd : (plainDisposition "a.txt").Readable :=
    ⟨by decide, by decide, by decide, by decide, nofun, by decide, nofun⟩
  exact ⟨hd, by decide +kernel, by decide +kernel⟩

end RequestRecord

end LoadScenario
