import LoadScenario.Proofs.SelfDelimiting
import LoadScenario.Proofs.SetterCalls
import LoadScenario.Scenario.Block

/-!
# Places that comments name

A comment behind a call names the place in the response body from which the value is taken. The
place is taken apart and put together again: the analysis takes off the root `$.` as often as it
stands there, and the scenario puts one in front. What comes out is the place of the comment if it
is relative, and also if it starts with one `$.`, but a root that is followed by anything but a dot
is left alone and gets a second one.

The comment is only seen if the value has no closing parenthesis. Lines on which neither function is
named may stand anywhere between the calls.
-/

namespace LoadScenario

open Text

/-! ## Places and their root -/

/-- The place that a comment names, with the root in front if it is relative. -/
def rooted (path : String) : String :=
  if path.toList.head? = some '$' then path else "$." ++ path

/-- Whether a place that has a root has one that can be taken off and put in front again. -/
def KeepsRoot (path : String) : Prop :=
  path.toList.head? = some '$' →
    ∃ cs, path.toList = '$' :: '.' :: cs ∧ ¬ "$.".toList <+: cs

theorem length_belowRoot_le (cs : List Char) : (belowRoot cs).length ≤ cs.length := by
  fun_induction belowRoot cs with
  | case1 cs ih => exact ih.trans (Nat.le_add_right cs.length 2)
  | case2 => exact le_refl _

theorem belowRoot_eq_self_iff {cs : List Char} : belowRoot cs = cs ↔ ¬ "$.".toList <+: cs := by
  constructor
  · rintro h ⟨rest, rfl⟩
    have heq : belowRoot rest = '$' :: '.' :: rest := h
    have hlength := length_belowRoot_le rest
    rw [heq, List.length_cons, List.length_cons] at hlength
    omega
  · intro h
    rw [belowRoot]
    rintro rest rfl
    exact h ⟨rest, rfl⟩

theorem rooted_belowRoot_iff {path : String} :
    "$." ++ String.ofList (belowRoot path.toList) = rooted path ↔ KeepsRoot path := by
  have hchars : "$." ++ String.ofList (belowRoot path.toList) = path ↔
      '$' :: '.' :: belowRoot path.toList = path.toList := by
    rw [← String.toList_inj, String.toList_append,
      String.toList_ofList (l := belowRoot path.toList)]
    rfl
  by_cases hroot : path.toList.head? = some '$'
  · rw [rooted, if_pos hroot, hchars]
    constructor
    · intro h _
      have hbelow : belowRoot ('$' :: '.' :: belowRoot path.toList) = belowRoot path.toList :=
        congrArg belowRoot h
      rw [belowRoot] at hbelow
      exact ⟨belowRoot path.toList, h.symm, belowRoot_eq_self_iff.mp hbelow⟩
    · intro h
      obtain ⟨cs, hpath, hcs⟩ := h hroot
      rw [hpath]
      show '$' :: '.' :: belowRoot cs = _
      rw [belowRoot_eq_self_iff.mpr hcs]
  · have hrelative : ¬ "$.".toList <+: path.toList := by
      rintro ⟨rest, hpath⟩
      exact hroot (hpath ▸ rfl)
    rw [rooted, if_neg hroot, belowRoot_eq_self_iff.mpr hrelative, String.ofList_toList]
    exact iff_of_true rfl fun h => absurd h hroot

namespace Scenario

/-- The check that keeps what stands at a place. -/
def placeCheck (path name : String) : String :=
  "jsonPath(" ++ literal path ++ ").saveAs(" ++ literal name ++ ")"

theorem placeCheck_injective {path path' name : String}
    (h : placeCheck path name = placeCheck path' name) : path = path' := by
  have hchars := congrArg String.toList h
  rw [placeCheck, placeCheck] at hchars
  simp only [String.toList_append, List.append_assoc] at hchars
  exact (literal_selfDelimiting _ _ _ _ (List.append_cancel_left hchars)).1

end Scenario

namespace Script

/-! ## Comments behind a call -/

/-- A call with a comment behind it that names the place of the value. -/
structure AnnotatedCall where
  /-- The text on the line before the call. -/
  before : List Char
  call : SetterCall
  beforeSemicolon : List Char
  semicolon : Bool
  beforeComment : List Char
  path : String

namespace AnnotatedCall

def comment (a : AnnotatedCall) : List Char :=
  a.beforeSemicolon ++ ((if a.semicolon then [';'] else []) ++
    (a.beforeComment ++ ("//JSONPath=".toList ++ a.path.toList)))

def text (a : AnnotatedCall) : List Char := a.before ++ (a.call.text ++ a.comment)

/-- The call as it is found. -/
def setter (a : AnnotatedCall) : Setter := a.call.setter (some a.path)

structure Readable (a : AnnotatedCall) : Prop where
  names : ∀ f : SetterFunction, ¬ f.word.toList <:+: a.before
  border : ∀ c ∈ a.before.getLast?, Outside c
  call : a.call.Readable
  beforeSemicolon : ∀ c ∈ a.beforeSemicolon, isBlank c
  beforeComment : ∀ c ∈ a.beforeComment, isBlank c
  path_ne_nil : a.path.toList ≠ []
  path_line : '\n' ∉ a.path.toList
  path_unpadded : Unpadded a.path.toList

variable {a : AnnotatedCall}

/-- White space and a semicolon are passed over to get to the comment. -/
theorem Readable.skipBlank_comment (h : a.Readable) (behind : List Char) :
    skipBlank ((expect [';'] (skipBlank (a.comment ++ behind))).getD
      (skipBlank (a.comment ++ behind))) =
        '/' :: '/' :: ("JSONPath=".toList ++ (a.path.toList ++ behind)) := by
  rw [comment]
  cases a.semicolon with
  | true =>
      have hsource : a.beforeSemicolon ++ ([';'] ++ (a.beforeComment ++
          ("//JSONPath=".toList ++ a.path.toList))) ++ behind =
            a.beforeSemicolon ++ ';' :: (a.beforeComment ++
              '/' :: '/' :: ("JSONPath=".toList ++ (a.path.toList ++ behind))) := by
        simp only [String.reduceToList, List.append_assoc, List.cons_append, List.nil_append]
      rw [if_pos rfl, hsource, expect_gap h.beforeSemicolon (by decide), Option.getD_some,
        skipBlank_gap h.beforeComment (by decide)]
  | false =>
      have hsource : a.beforeSemicolon ++ ([] ++ (a.beforeComment ++
          ("//JSONPath=".toList ++ a.path.toList))) ++ behind =
            (a.beforeSemicolon ++ a.beforeComment) ++
              '/' :: '/' :: ("JSONPath=".toList ++ (a.path.toList ++ behind)) := by
        simp only [String.reduceToList, List.append_assoc, List.cons_append, List.nil_append]
      have hblank : ∀ c ∈ a.beforeSemicolon ++ a.beforeComment, isBlank c :=
        fun c hc => (List.mem_append.mp hc).elim (h.beforeSemicolon c) (h.beforeComment c)
      rw [if_neg Bool.false_ne_true, hsource, skipBlank_gap hblank (by decide),
        expect_cons_of_ne (by decide), Option.getD_none, skipBlank_cons (by decide)]

theorem Readable.pathComment_append (h : a.Readable) {behind : List Char}
    (hbehind : ∀ c ∈ behind.head?, c = '\n') :
    pathComment (a.comment ++ behind) = some (a.path.toList, behind) := by
  have hpath : ∀ c ∈ a.path.toList, decide (c ≠ '\n') = true :=
    fun c hc => decide_eq_true fun heq => h.path_line (heq ▸ hc)
  obtain ⟨htake, hdrop⟩ := span_append hpath behind fun c hc =>
    decide_eq_false fun hne => hne (hbehind c hc)
  have hslashes : ∀ cs, expect "//".toList ('/' :: '/' :: cs) = some cs :=
    fun _ => expect_eq_some_iff.mpr rfl
  have hmark : ∀ cs, expect "JSONPath=".toList (skipBlank ("JSONPath=".toList ++ cs)) = some cs :=
    fun cs => (congrArg _ (skipBlank_cons (by decide) _)).trans (expect_eq_some_iff.mpr rfl)
  rw [pathComment]
  simp only [Option.bind_eq_bind]
  rw [h.skipBlank_comment, hslashes, Option.bind_some, hmark, Option.bind_some, htake,
    hdrop]
  rfl

theorem Readable.nonBlank?_path (h : a.Readable) : nonBlank? a.path.toList = some a.path := by
  rw [nonBlank?, h.path_unpadded.trim_eq, if_neg (by rw [List.isEmpty_iff]; exact h.path_ne_nil),
    String.ofList_toList]

theorem Readable.valuesFrom_text (h : a.Readable) {previous : Option Char}
    (hprevious : isWord? previous = false) {behind : List Char}
    (hbehind : ∀ c ∈ behind.head?, c = '\n') :
    valuesFrom Script.setter previous (a.text ++ behind) =
      a.setter :: valuesFrom Script.setter (a.call.text ++ a.comment).getLast? behind := by
  have hcall : isWord? (a.before.getLast?.or previous) = false := by
    cases hlast : a.before.getLast? with
    | none => exact hprevious
    | some c => exact (h.border c hlast).1
  have hfound : Script.setter (a.before.getLast?.or previous)
      ((a.call.text ++ a.comment) ++ behind) = some (a.setter, behind) := by
    rw [List.append_assoc, h.call.setter_append _ fun _ => hcall, h.pathComment_append hbehind]
    simp only
    rw [h.nonBlank?_path]
    rfl
  rw [text, List.append_assoc, valuesFrom_unnamed h.names (.inl h.border),
    valuesFrom_found (List.append_ne_nil_of_left_ne_nil a.call.text_ne_nil _) hfound]

end AnnotatedCall

/-! ## The lines of a script -/

/-- A line with such a call, or one on which neither function is named. -/
inductive ScriptLine where
  | annotated (a : AnnotatedCall)
  | other (text : List Char)

namespace ScriptLine

def text : ScriptLine → List Char
  | annotated a => a.text
  | other text => text

def calls : ScriptLine → List AnnotatedCall
  | annotated a => [a]
  | other _ => []

def Readable : ScriptLine → Prop
  | annotated a => a.Readable
  | other text => ∀ f : SetterFunction, ¬ f.word.toList <:+: text

end ScriptLine

/-- A script of such lines. -/
def lineScript (ls : List ScriptLine) : String :=
  String.ofList (['\n'].intercalate (ls.map ScriptLine.text))

/-- The calls on the lines are found, with their comments, and nothing else. -/
theorem map_snd_setters_lineScript {ls : List ScriptLine} (h : ∀ l ∈ ls, l.Readable) :
    (setters (lineScript ls)).map Prod.snd =
      (ls.flatMap ScriptLine.calls).map AnnotatedCall.setter := by
  have hnewline : Outside '\n' := ⟨by decide, by decide⟩
  have hseparator : ∀ c ∈ ['\n'], ∀ previous cs, setter previous (c :: cs) = none :=
    fun c hc => setter_of_outside (List.mem_singleton.mp hc ▸ hnewline)
  have hvalues : valuesFrom setter none (['\n'].intercalate (ls.map ScriptLine.text) ++ []) =
      ls.flatMap fun l => l.calls.map AnnotatedCall.setter := by
    refine valuesFrom_intercalate_append (fun previous => isWord? previous = false) _ hseparator
      (fun _ => hnewline.1) (fun _ => rfl) (fun l hl previous hprevious behind hbehind => ?_) rfl
    have hstop : ∀ c ∈ behind.head?, c = '\n' := by
      rcases hbehind with rfl | ⟨rest, rfl⟩ <;> rintro _ ⟨⟩
      rfl
    cases l with
    | other text =>
        exact ⟨_, valuesFrom_unnamed (h _ hl) (.inr fun c hc => hstop c hc ▸ hnewline) previous⟩
    | annotated a => exact ⟨_, (h _ hl : a.Readable).valuesFrom_text hprevious hstop⟩
  rw [List.append_nil] at hvalues
  rw [map_snd_setters, lineScript, String.toList_ofList, List.map_flatMap]
  exact hvalues

end Script

namespace RequestRecord

open Script Scenario

/-- What is kept for a call with a comment. -/
def placeCapture (s : Setter) : Capture :=
  .json s.name (String.ofList (belowRoot (s.jsonPath.getD "").toList))

theorem captureOf?_annotated {s : Setter} {path : String} (hvalue : literalText? s.value = none)
    (hpath : s.jsonPath = some path) (script : String) (offset : Nat) :
    captureOf? script offset s = some (placeCapture s) := by
  rw [captureOf?_named script offset hvalue hpath, placeCapture, hpath, Option.getD_some]

theorem captureCheck_placeCapture_iff {s : Setter} {path : String} (h : s.jsonPath = some path) :
    captureCheck (placeCapture s) = placeCheck (rooted path) s.name ↔ KeepsRoot path := by
  rw [placeCapture, h, ← rooted_belowRoot_iff]
  constructor
  · exact fun hcheck => placeCheck_injective hcheck
  · intro hpath
    rw [← hpath]
    rfl

theorem captures_of_annotated {r : RequestRecord} {as : List AnnotatedCall}
    (hsetters : (setters r.script).map Prod.snd = as.map AnnotatedCall.setter)
    (hvalue : ∀ a ∈ as, literalText? a.setter.value = none) :
    r.request.checks.captures = as.map (fun a => placeCapture a.setter) ∧
      r.scriptWarnings = [] := by
  have hcapture : ∀ p ∈ setters r.script,
      captureOf? r.script p.1 p.2 = some (placeCapture p.2) := by
    intro p hp
    have hs : p.2 ∈ as.map AnnotatedCall.setter := hsetters ▸ List.mem_map_of_mem hp
    obtain ⟨a, ha, hsetter⟩ := List.mem_map.mp hs
    rw [← hsetter]
    exact captureOf?_annotated (hvalue a ha) rfl r.script p.1
  constructor
  · calc (setters r.script).filterMap (fun p => captureOf? r.script p.1 p.2)
        = (setters r.script).filterMap (fun p => some (placeCapture p.2)) :=
          List.filterMap_congr hcapture
      _ = ((setters r.script).map Prod.snd).map placeCapture := by
          rw [List.filterMap_eq_map', List.map_map]
          rfl
      _ = as.map fun a => placeCapture a.setter := by
          rw [hsetters, List.map_map]
          rfl
  · refine scriptWarnings_eq_nil_iff.mpr fun p hp => ?_
    rw [hcapture p hp]
    exact Option.some_ne_none _

/-- The check of a call with a comment reads the place of the comment just if that place has no root
or keeps it. On lines of their own all such calls are found and give their checks in order. -/
theorem annotated_paths_read (r : RequestRecord) :
    (∀ offset s path, (offset, s) ∈ setters r.script → literalText? s.value = none →
      s.jsonPath = some path → ∃ c, captureOf? r.script offset s = some c ∧
        captureCheck c ∈ checkCalls r.request.checks ∧
        (captureCheck c = placeCheck (rooted path) s.name ↔ KeepsRoot path)) ∧
    ∀ ls : List ScriptLine, r.tests = some (lineScript ls) → (∀ l ∈ ls, l.Readable) →
      (∀ a ∈ ls.flatMap ScriptLine.calls, literalText? a.setter.value = none) →
      r.scriptWarnings = [] ∧
        (r.request.checks.captures.map captureCheck = (ls.flatMap ScriptLine.calls).map
          (fun a => placeCheck (rooted a.path) a.call.name) ↔
            ∀ a ∈ ls.flatMap ScriptLine.calls, KeepsRoot a.path) := by
  constructor
  · intro offset s path hs hvalue hpath
    have hcapture := captureOf?_annotated hvalue hpath r.script offset
    refine ⟨placeCapture s, hcapture, ?_, captureCheck_placeCapture_iff hpath⟩
    have hmem : placeCapture s ∈ r.request.checks.captures :=
      List.mem_filterMap.mpr ⟨(offset, s), hs, hcapture⟩
    exact List.mem_append_right _ (List.mem_map_of_mem hmem)
  · intro ls hscript hreadable hvalue
    have hsetters : (setters r.script).map Prod.snd =
        (ls.flatMap ScriptLine.calls).map AnnotatedCall.setter := by
      rw [script, hscript, Option.getD_some, map_snd_setters_lineScript hreadable]
    obtain ⟨hcaptures, hwarnings⟩ := captures_of_annotated hsetters hvalue
    refine ⟨hwarnings, ?_⟩
    rw [hcaptures, List.map_map, List.map_inj_left]
    exact forall₂_congr fun a _ => captureCheck_placeCapture_iff rfl

/-- A call as it is usually written. -/
def noted (name value path : String) : AnnotatedCall where
  before := []
  call := plainCall .environment name (' ' :: value.toList)
  beforeSemicolon := []
  semicolon := true
  beforeComment := [' ']
  path := path

example : lineScript [.annotated (noted "user" "data.user" "$.user.id"), .other []] =
    "postman.setEnvironmentVariable(\"user\", data.user); //JSONPath=$.user.id\n" := by decide

theorem readable_noted {name value path : String} (hname : ∀ c ∈ name.toList, isWord c)
    (hvalue : ∀ c ∈ value.toList, c ≠ ')' ∧ c ≠ '\n') (hne : path.toList ≠ [])
    (hline : '\n' ∉ path.toList) (hunpadded : Unpadded path.toList) :
    (noted name value path).Readable where
  names f hf := f.word_ne_nil (List.infix_nil.mp hf)
  border := nofun
  call := readable_plainCall hname (List.forall_mem_cons.mpr ⟨by decide, hvalue⟩)
  beforeSemicolon := nofun
  beforeComment := List.forall_mem_singleton.mpr (by decide)
  path_ne_nil := hne
  path_line := hline
  path_unpadded := hunpadded

/-- A call on a line of a loop, with a comment close behind it. -/
def notedInLoop : AnnotatedCall where
  before := "  if (i) \x7b ".toList
  call :=
    { onPostman := false
      function := .global
      beforeBracket := [' ']
      beforeName := [' ']
      opening := .single
      name := "item_1"
      closing := .single
      beforeComma := []
      value := "items[i] ".toList }
  beforeSemicolon := []
  semicolon := false
  beforeComment := []
  path := "items[0].id"

theorem readable_notedInLoop : notedInLoop.Readable where
  names := by rintro (_ | _) hf <;> exact absurd hf.length_le (by decide)
  border := by
    rintro _ ⟨⟩
    exact ⟨by decide, by decide⟩
  call := ⟨by decide, by decide, by decide, by decide, nofun⟩
  beforeSemicolon := nofun
  beforeComment := nofun
  path_ne_nil := by decide
  path_line := by decide
  path_unpadded := by decide

def notedLines : List ScriptLine :=
  [.other "for (i in items)".toList, .annotated notedInLoop,
    .annotated (noted "any" "data[\"id\"]" "$..id"),
    .annotated (noted "user" "data.user" "$.user.id")]

theorem annotated_paths_read_noting :
    (scripted (lineScript notedLines)).scriptWarnings = [] ∧
      (scripted (lineScript notedLines)).request.checks.captures.map captureCheck =
        [placeCheck "$.items[0].id" "item_1", placeCheck "$..id" "any",
          placeCheck "$.user.id" "user"] := by
  have hreadable : ∀ l ∈ notedLines, l.Readable := by
    refine List.forall_mem_cons.mpr ⟨?_, List.forall_mem_cons.mpr ⟨?_, List.forall_mem_cons.mpr
      ⟨?_, List.forall_mem_singleton.mpr ?_⟩⟩⟩
    · rintro (_ | _) hf <;> exact absurd hf.length_le (by decide)
    · exact readable_notedInLoop
    · exact readable_noted (by decide) (by decide) (by decide) (by decide) (by decide)
    · exact readable_noted (by decide) (by decide) (by decide) (by decide) (by decide)
  have hroot : ∀ a ∈ notedLines.flatMap ScriptLine.calls, KeepsRoot a.path := by
    refine List.forall_mem_cons.mpr ⟨nofun, List.forall_mem_cons.mpr ⟨fun _ => ⟨_, rfl, by decide⟩,
      List.forall_mem_singleton.mpr fun _ => ⟨_, rfl, by decide⟩⟩⟩
  have hchecks : (notedLines.flatMap ScriptLine.calls).map
      (fun a => placeCheck (rooted a.path) a.call.name) =
        [placeCheck "$.items[0].id" "item_1", placeCheck "$..id" "any",
          placeCheck "$.user.id" "user"] := by
    decide
  obtain ⟨hwarnings, hread⟩ :=
    (annotated_paths_read (scripted (lineScript notedLines))).2 notedLines rfl hreadable (by decide)
  exact ⟨hwarnings, hchecks ▸ hread.mpr hroot⟩

/-- A place whose root is followed by a bracket gets a second root. -/
theorem second_root_read :
    (scripted (lineScript [.annotated (noted "first" "data[0]" "$[0].id")])).request.checks.captures
        = [.json "first" "$[0].id"] ∧
      captureCheck (.json "first" "$[0].id") = placeCheck "$.$[0].id" "first" ∧
      placeCheck "$.$[0].id" "first" ≠ placeCheck (rooted "$[0].id") "first" := by
  decide

end RequestRecord

end LoadScenario
