import LoadScenario.Proofs.MarkedText
import LoadScenario.Proofs.OrderedMap
import LoadScenario.Proofs.TextSearch
import LoadScenario.Proofs.WhiteSpace
import LoadScenario.Request.Analysis

/-!
# Header blocks

A block of headers is read line by line, and what is read of a line depends on its first colon
alone: without a colon there is no header, and with one the key is what stands before it and the
value what stands behind, both trimmed (`headerOfLine?_colon`). So a header that was written is read
as it was written, whatever stands in its value, and no other line gets in between.

A request that authenticates by a helper leaves out the headers that carry credentials. That is
decided before placeholders are translated and before a repeated key takes its last value, but it
could as well be decided behind both: a placeholder brings a dollar sign and a brace into a key, so
that no key becomes or ceases to be the one in question (`isAuthorization_translate`), and keys that
are left out do not get in the way of the others (`OrderedMap.entries_ofList_filter`).
-/

namespace LoadScenario

open Text

/-! ## One line -/

theorem headerOfLine?_colon {front : List Char} (h : ':' ∉ front) (back : List Char) :
    headerOfLine? (front ++ ':' :: back) =
      some (String.ofList (trim front), String.ofList (trim back)) := by
  have hfront : ∀ c ∈ skipBlank front, decide (c ≠ ':') = true := fun c hc =>
    decide_eq_true fun heq => h (heq ▸ (List.dropWhile_suffix isBlank).subset hc)
  obtain ⟨hkey, hvalue⟩ := span_append hfront (':' :: trimEnd back) (by
    rintro _ ⟨⟩
    rfl)
  rw [headerOfLine?, trim_append_cons (by decide)]
  simp only [hkey, hvalue]
  rw [trim_skipBlank, trim_trimEnd]

theorem headerOfLine?_eq_none {line : List Char} (h : ':' ∉ line) : headerOfLine? line = none := by
  have hline : (trim line).dropWhile (· ≠ ':') = [] := List.dropWhile_eq_nil_iff.mpr
    fun c hc => decide_eq_true fun heq => h (heq ▸ trim_subset line hc)
  rw [headerOfLine?]
  simp only [hline]

/-! ## A block as it is written -/

/-- A line of a block: a header, or something that is none. -/
inductive HeaderLine where
  | header (key value : String)
  | other (text : String)

namespace HeaderLine

def text : HeaderLine → String
  | header key value => key ++ ": " ++ value
  | other text => text

def header? : HeaderLine → Option (String × String)
  | header key value => some (key, value)
  | other _ => none

/-- What a line has to keep to. Blank lines are among those without a colon. -/
def Readable : HeaderLine → Prop
  | header key value => ('\n' ∉ key.toList ∧ '\n' ∉ value.toList) ∧
      (Unpadded key.toList ∧ Unpadded value.toList) ∧ ':' ∉ key.toList
  | other text => '\n' ∉ text.toList ∧ ':' ∉ text.toList

instance : (l : HeaderLine) → Decidable l.Readable
  | header _ _ => inferInstanceAs (Decidable (_ ∧ _))
  | other _ => inferInstanceAs (Decidable (_ ∧ _))

theorem toList_header (key value : String) :
    (header key value).text.toList = key.toList ++ ':' :: ' ' :: value.toList := by
  rw [text, String.toList_append, String.toList_append, List.append_assoc]
  rfl

theorem Readable.newline_not_mem {l : HeaderLine} (h : l.Readable) : '\n' ∉ l.text.toList := by
  cases l with
  | header key value =>
      obtain ⟨⟨hkey, hvalue⟩, -⟩ := h
      rw [toList_header]
      simp [hkey, hvalue]
  | other text => exact h.1

theorem Readable.headerOfLine?_eq {l : HeaderLine} (h : l.Readable) :
    headerOfLine? l.text.toList = l.header? := by
  cases l with
  | header key value =>
      obtain ⟨-, ⟨hkey, hvalue⟩, hcolon⟩ := h
      have hspace : trim (' ' :: value.toList) = trim value.toList := by
        rw [← trim_skipBlank, skipBlank_blank (by decide), trim_skipBlank]
      rw [toList_header, headerOfLine?_colon hcolon, hspace, hkey.trim_eq, hvalue.trim_eq,
        String.ofList_toList, String.ofList_toList]
      rfl
  | other text => exact headerOfLine?_eq_none h.2

end HeaderLine

theorem headerLines_written {ls : List HeaderLine} (h : ∀ l ∈ ls, l.Readable) :
    headerLines ("\n".intercalate (ls.map HeaderLine.text)) = ls.filterMap HeaderLine.header? := by
  have hparts : ∀ part ∈ ls.map (String.toList ∘ HeaderLine.text), '\n' ∉ part :=
    List.forall_mem_map.mpr fun l hl => (h l hl).newline_not_mem
  rw [headerLines, String.toList_intercalate, List.map_map]
  show ((['\n'].intercalate _).splitOn '\n').filterMap headerOfLine? = _
  cases ls with
  | nil => rfl
  | cons l ls =>
      have hne : (l :: ls).map (String.toList ∘ HeaderLine.text) ≠ [] := List.cons_ne_nil _ _
      rw [List.splitOn_intercalate '\n' hparts hne, List.filterMap_map]
      exact List.filterMap_congr fun l hl => (h l hl).headerOfLine?_eq

/-! ## Headers that carry credentials -/

theorem foldCase_ne {key : String} {word : List Char} {c : Char} (hc : c ∈ key.toList)
    (hletter : c.toLower ∉ word) : foldCase key ≠ word := by
  rw [foldCase]
  rintro rfl
  exact hletter (List.mem_map_of_mem hc)

/-- A placeholder makes no difference to whether a key is a certain word. -/
theorem foldCase_translate_eq_iff {key : String} {word : List Char} (hbrace : '\x7b' ∉ word)
    (hdollar : '$' ∉ word) : foldCase (translate key) = word ↔ foldCase key = word := by
  rcases translate_eq_self_or key with hsame | ⟨hkey, htranslated⟩
  · rw [hsame]
  · exact iff_of_false (foldCase_ne htranslated hdollar) (foldCase_ne hkey hbrace)

theorem isAuthorization_translate (key : String) :
    isAuthorization (translate key) = isAuthorization key :=
  decide_eq_decide.mpr (foldCase_translate_eq_iff (by decide) (by decide))

/-! ## The headers of a request -/

/-- A header with its placeholders written as references. -/
def translatedHeader (header : String × String) : String × String :=
  (translate header.1, translate header.2)

theorem headersOf_false (block : String) :
    headersOf block false = OrderedMap.ofList ((headerLines block).map translatedHeader) := by
  rw [headersOf]
  simp only [Bool.false_and, Bool.not_false, List.filter_true]
  rfl

theorem entries_headersOf_true (block : String) : (headersOf block true).entries =
    (headersOf block false).entries.filter fun e => !isAuthorization e.1 := by
  have hfilter : ((headerLines block).filter fun h => !isAuthorization h.1).map translatedHeader =
      ((headerLines block).map translatedHeader).filter fun e => !isAuthorization e.1 := by
    have hcommute : (fun e : String × String => !isAuthorization e.1) ∘ translatedHeader =
        fun h => !isAuthorization h.1 := by
      funext h
      rw [Function.comp_apply, translatedHeader, isAuthorization_translate]
    rw [List.filter_map, hcommute]
  have htrue : headersOf block true = OrderedMap.ofList
      (((headerLines block).filter fun h => !isAuthorization h.1).map translatedHeader) := by
    rw [headersOf]
    simp only [Bool.true_and]
    rfl
  rw [htrue, hfilter, headersOf_false]
  exact OrderedMap.entries_ofList_filter (fun key => !isAuthorization key) _

namespace RequestRecord

/-- Whether the helper of a request stands for an authentication. -/
def Authenticates (r : RequestRecord) : Prop :=
  r.helper = some "basicAuth" ∨ r.helper = some "digestAuth"

theorem isSome_auth?_iff {r : RequestRecord} : r.auth?.isSome ↔ r.Authenticates := by
  rw [auth?, Option.isSome_map, authScheme?, Authenticates]
  cases r.helper with
  | none => simp
  | some helper =>
      rw [Option.bind_some, AuthScheme.ofHelper?]
      by_cases hbasic : helper = "basicAuth"
      · simp [hbasic]
      · by_cases hdigest : helper = "digestAuth" <;> simp [hbasic, hdigest]

theorem headers_of_not_authenticates {r : RequestRecord} (h : ¬ r.Authenticates) :
    r.request.headers = OrderedMap.ofList ((headerLines r.headers).map translatedHeader) := by
  have hauth : r.auth?.isSome = false := (Bool.not_eq_true _).mp (mt isSome_auth?_iff.mp h)
  show headersOf r.headers r.auth?.isSome = _
  rw [hauth, headersOf_false]

theorem headers_without_helper (r : RequestRecord) :
    { r with helper := none }.request.headers =
      OrderedMap.ofList ((headerLines r.headers).map translatedHeader) :=
  headers_of_not_authenticates (r := { r with helper := none }) (by simp [Authenticates])

/-- A request that authenticates has the headers that it would have without its helper, but for
those that carry credentials. Any other request has all its headers. -/
theorem headers_of_helper (r : RequestRecord) :
    (r.Authenticates → r.request.auth.isSome ∧
      r.request.headers.entries =
        ({ r with helper := none }.request.headers.entries.filter fun e => !isAuthorization e.1) ∧
      ∀ key ∈ r.request.headers.keys, ¬ isAuthorization key) ∧
    (¬ r.Authenticates → r.request.auth = none ∧
      r.request.headers = { r with helper := none }.request.headers ∧
      ∀ header ∈ headerLines r.headers, translate header.1 ∈ r.request.headers.keys) := by
  constructor
  · intro h
    have hauth := isSome_auth?_iff.mpr h
    have hentries : r.request.headers.entries =
        { r with helper := none }.request.headers.entries.filter
          fun e => !isAuthorization e.1 := by
      show (headersOf r.headers r.auth?.isSome).entries = _
      rw [hauth, entries_headersOf_true, headersOf_false, headers_without_helper]
    refine ⟨hauth, hentries, fun key hkey => ?_⟩
    obtain ⟨e, he, rfl⟩ := List.mem_map.mp hkey
    rw [hentries] at he
    simpa using (List.mem_filter.mp he).2
  · intro h
    have hall := headers_of_not_authenticates h
    refine ⟨Option.not_isSome_iff_eq_none.mp (mt isSome_auth?_iff.mp h), ?_, fun header hmem => ?_⟩
    · rw [hall, headers_without_helper]
    · rw [hall, OrderedMap.keys_ofList, List.mem_eraseDups, keysOf, List.map_map]
      exact List.mem_map_of_mem (f := Prod.fst ∘ translatedHeader) hmem

/-- The headers of a block that was written are the translated headers in the order in which their
keys come first, each with the value that comes last. -/
theorem headers_read_back (r : RequestRecord) {ls : List HeaderLine}
    (hlines : ∀ l ∈ ls, l.Readable)
    (hblock : r.headers = "\n".intercalate (ls.map HeaderLine.text)) (hhelper : ¬ r.Authenticates) :
    let declared := (ls.filterMap HeaderLine.header?).map translatedHeader
    r.request.headers = OrderedMap.ofList declared ∧
      r.request.headers.keys = (keysOf declared).eraseDups ∧
      ∀ key, r.request.headers.get? key =
        ((declared.filter fun header => header.1 = key).getLast?).map Prod.snd := by
  intro declared
  have hheaders : r.request.headers = OrderedMap.ofList declared := by
    rw [headers_of_not_authenticates hhelper, hblock, headerLines_written hlines]
  refine ⟨hheaders, ?_, fun key => ?_⟩
  · rw [hheaders, OrderedMap.keys_ofList]
  · rw [hheaders, OrderedMap.get?_ofList]

/-- A request with a header block and not much else. -/
def headed (helper : Option String) (headers : String) : RequestRecord where
  id := "1"
  name := "Order"
  method := "GET"
  url := "/orders"
  headers := headers
  bodyMode := none
  rawBody := none
  helper := helper
  credentials := none
  tests := none

def credentialHeaders : String :=
  "authorization : Basic \x7b\x7bkey\x7d\x7d\nAccept: */*\r\nAUTHORIZATION: x\nX-Authorization: y"

def securedRequest : RequestRecord := headed (some "digestAuth") credentialHeaders

def signedRequest : RequestRecord := headed (some "oAuth1") credentialHeaders

theorem headers_of_helper_headed :
    (securedRequest.Authenticates ∧ securedRequest.request.headers.entries =
        [("Accept", "*/*"), ("X-Authorization", "y")]) ∧
      ¬ signedRequest.Authenticates ∧ signedRequest.request.auth = none ∧
        translate "authorization" ∈ signedRequest.request.headers.keys := by
  have hsecured : securedRequest.Authenticates := .inr rfl
  have hsigned : ¬ signedRequest.Authenticates := by
    rintro (h | h) <;> exact absurd h (by decide)
  have hline : ("authorization", "Basic \x7b\x7bkey\x7d\x7d") ∈
      headerLines signedRequest.headers := by decide +kernel
  obtain ⟨-, hleft, -⟩ := (headers_of_helper securedRequest).1 hsecured
  obtain ⟨hnone, -, hkept⟩ := (headers_of_helper signedRequest).2 hsigned
  have hthere := hkept _ hline
  refine ⟨⟨hsecured, ?_⟩, hsigned, hnone, hthere⟩
  rw [hleft]
  decide +kernel

/-- Lines of which two have keys that are different until they are translated. -/
def tracedLines : List HeaderLine :=
  [.header "X-\x7b\x7bid\x7d\x7d" "one:\rtwo", .other " \t", .header "Accept" "*/*",
    .other "no header", .header "X-$\x7bid\x7d" "a\u2003b", .header "" ""]

theorem headers_read_back_traced :
    (∀ l ∈ tracedLines, l.Readable) ∧
      (headed none ("\n".intercalate (tracedLines.map HeaderLine.text))).request.headers.entries =
        [("X-$\x7bid\x7d", "a\u2003b"), ("Accept", "*/*"), ("", "")] := by
  have hlines : ∀ l ∈ tracedLines, l.Readable := by decide
  have hhelper : ¬ (headed none
      ("\n".intercalate (tracedLines.map HeaderLine.text))).Authenticates := by
    rintro (h | h) <;> cases h
  have hdeclared : (OrderedMap.ofList
      ((tracedLines.filterMap HeaderLine.header?).map translatedHeader)).entries =
        [("X-$\x7bid\x7d", "a\u2003b"), ("Accept", "*/*"), ("", "")] := by
    decide +kernel
  obtain ⟨hheaders, -, -⟩ := headers_read_back _ hlines rfl hhelper
  exact ⟨hlines, by rw [hheaders, hdeclared]⟩

end RequestRecord

end LoadScenario
