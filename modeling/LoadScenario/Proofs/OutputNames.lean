import LoadScenario.Proofs.BodyOutcome
import LoadScenario.Proofs.SimulationStages

/-!
# What the files of an output are called

The names of collections and requests are any texts, and a file name is made of them. Such a name is
a word of letters, digits, underscores and hyphens, so it can be no way out of the directory that it
is joined to: the file lies directly inside of it. What follows from the words alone is that the
scenario, the feeder and the bodies with content go to different files.
-/

namespace LoadScenario

/-! ## Words -/

/-- A word of letters, digits, underscores and hyphens. -/
def IsWord (s : String) : Prop := ∀ c ∈ s.toList, isSafe c ∨ c = '_'

theorem isWord_safeName (name : String) : IsWord (safeName name) := by
  intro c hc
  rw [safeName, String.toList_ofList] at hc
  obtain ⟨d, -, rfl⟩ := List.mem_map.mp hc
  split
  next hsafe => exact .inl hsafe
  next => exact .inr rfl

theorem isWord_className (name : String) : IsWord (className name) := by
  rw [className]
  split
  · exact isWord_safeName name
  · intro c hc
    rw [String.toList_append] at hc
    rcases List.mem_append.mp hc with hunderscore | hc
    · exact .inr (List.mem_singleton.mp hunderscore)
    · exact isWord_safeName name c hc

theorem className_ne_empty (name : String) : className name ≠ "" := by
  rw [className]
  split
  next hhead =>
    intro hempty
    rw [hempty] at hhead
    cases hhead
  next =>
    intro hempty
    have hchars := congrArg String.toList hempty
    rw [String.toList_append] at hchars
    cases hchars

/-- A text that names something in a directory: it is one part and leads somewhere. -/
structure IsName (s : String) : Prop where
  slash : '/' ∉ s.toList
  leads : s ≠ "" ∧ s ≠ "." ∧ s ≠ ".."

theorem IsWord.not_mem {s : String} (h : IsWord s) {c : Char} (hsafe : isSafe c = false)
    (hc : c ≠ '_') : c ∉ s.toList := by
  intro hmem
  rcases h c hmem with hc' | hc'
  · rw [hsafe] at hc'
    cases hc'
  · exact hc hc'

theorem IsWord.isName {s : String} (h : IsWord s) (hs : s ≠ "") : IsName s := by
  have hdot : '.' ∉ s.toList := h.not_mem (by decide) (by decide)
  refine ⟨h.not_mem (by decide) (by decide), hs, ?_, ?_⟩
  · rintro rfl
    exact hdot List.mem_cons_self
  · rintro rfl
    exact hdot List.mem_cons_self

/-- A word with an ending is a name, if the ending alone is too long for a dot or two. -/
theorem IsWord.isName_append {s ending : String} (h : IsWord s) (hslash : '/' ∉ ending.toList)
    (hlength : 2 < ending.toList.length) : IsName (s ++ ending) := by
  have hlong : 2 < (s ++ ending).toList.length := by
    rw [String.toList_append, List.length_append]
    omega
  refine ⟨?_, ?_, ?_, ?_⟩
  · rw [String.toList_append, List.mem_append, not_or]
    exact ⟨h.not_mem (by decide) (by decide), hslash⟩
  all_goals
    intro heq
    rw [heq] at hlong
    exact absurd hlong (by decide)

/-! ## Destinations -/

namespace Path

theorem lead_append (l : Location) (front rest : List String) :
    lead l (front ++ rest) = lead (lead l front) rest := by
  induction front generalizing l with
  | nil => rfl
  | cons part front ih =>
      rw [List.cons_append, lead, lead]
      split
      · exact ih _
      · split
        · exact ih _
        · exact ih _

theorem lead_singleton {name : String} (hname : IsName name) (l : Location) :
    lead l [name] = l ++ [name] := by
  obtain ⟨hempty, hdot, hup⟩ := hname.leads
  rw [lead, if_neg (by simp [hempty, hdot]), if_neg hup, lead]

/-- What is joined to a path leads on from where the path leads. -/
theorem destination_join_relative {p : Path} {inner : String} (hrooted : isRooted inner = false)
    (here : Location) :
    (p.join inner).destination here = lead (p.destination here) (Path.mk inner).parts := by
  cases hp : p.isEmpty with
  | true =>
      obtain ⟨text⟩ := p
      obtain rfl : text = "" := String.isEmpty_iff.mp hp
      rw [empty_join hrooted, destination, hrooted]
      rfl
  | false =>
      obtain ⟨behind, htext⟩ := text_join hp hrooted
      obtain ⟨front, hfront, hparts⟩ := parts_join hp hrooted
      have hlead : ∀ l, lead l p.parts = lead l front := by
        intro l
        rcases hfront with hfront | hfront
        · rw [hfront]
        · rw [hfront, lead_append]
          rfl
      rw [destination, destination, htext, isRooted_append hp, hparts, lead_append, hlead]

/-- What is named in a directory lies directly inside of it. -/
theorem destination_join {p : Path} {name : String} (hname : IsName name) (here : Location) :
    (p.join name).destination here = p.destination here ++ [name] := by
  rw [destination_join_relative (isRooted_of_not_mem hname.slash), parts_of_not_mem hname.slash]
  exact lead_singleton hname _

end Path

/-! ## Bodies with content -/

theorem translate_eq_empty_iff {s : String} : translate s = "" ↔ s = "" := by
  constructor
  · intro h
    rw [translate, String.ofList_eq_empty_iff, Text.Marks.replaceNames,
      List.flatMap_eq_nil_iff] at h
    have hpieces : placeholder.pieces s.toList = [] := by
      refine List.eq_nil_iff_forall_not_mem.mpr fun piece hpiece => ?_
      have hreplaced := h piece hpiece
      cases piece <;> cases hreplaced
    have hsource := Text.Marks.flatMap_source_pieces placeholder s.toList
    rw [hpieces] at hsource
    exact String.toList_eq_nil_iff.mp hsource.symm
  · rintro rfl
    rfl

/-- What the file of a body with content is called. -/
def RequestRecord.bodyFile (r : RequestRecord) : String := safeName r.name ++ bodySuffix

theorem RequestRecord.isName_bodyFile (r : RequestRecord) : IsName r.bodyFile :=
  (isWord_safeName r.name).isName_append (by decide) (by decide)

theorem Body.contentToWrite?_eq_some_iff {b : Body} {content : String} :
    b.contentToWrite? = some content ↔ b.content = some content ∧ content ≠ "" := by
  rw [Body.contentToWrite?, Option.bind_eq_some_iff]
  constructor
  · rintro ⟨content', hcontent, hif⟩
    split at hif
    next => cases hif
    next hfull =>
      cases hif
      exact ⟨hcontent, fun h => hfull (by rw [h]; rfl)⟩
  · rintro ⟨hcontent, hne⟩
    exact ⟨content, hcontent, if_neg (by rwa [String.isEmpty_iff])⟩

/-- A body that is written is the raw one of its record, in a file named for the record. -/
theorem RequestRecord.raw_of_body? {r : RequestRecord} {b : Body} {content : String}
    (hb : r.body? = some b) (hcontent : b.contentToWrite? = some content) :
    r.bodyMode = some "raw" ∧ b.filename = r.bodyFile ∧
      ∃ raw, r.rawBody = some raw ∧ raw ≠ "" ∧ content = translate raw := by
  obtain ⟨hcontent, hne⟩ := Body.contentToWrite?_eq_some_iff.mp hcontent
  obtain ⟨hraw, rfl⟩ | ⟨-, rfl⟩ := body?_cases hb
  · obtain ⟨raw, hrawBody, rfl⟩ := Option.map_eq_some_iff.mp hcontent
    refine ⟨hraw, rfl, raw, hrawBody, ?_, rfl⟩
    exact fun hempty => hne (translate_eq_empty_iff.mpr hempty)
  · cases hcontent

theorem RequestRecord.body?_of_raw {r : RequestRecord} {raw : String}
    (hmode : r.bodyMode = some "raw") (hraw : r.rawBody = some raw) :
    r.body? = some ⟨r.bodyFile, some (translate raw)⟩ := by
  rw [body?_raw hmode, hraw, Option.map_some, bodyFile]

/-- The requests of a simulation are those of records. -/
theorem Collection.Analyses.exists_record {c : Collection} {rs : List Request}
    (h : c.Analyses rs) {r : Request} (hr : r ∈ rs) :
    ∃ record ∈ c.requests, record.request = r := by
  have hmem : some r ∈ rs.map some := List.mem_map_of_mem hr
  rw [← h] at hmem
  obtain ⟨entry, -, hentry⟩ := List.mem_map.mp hmem
  obtain ⟨record, hfind, hrecord⟩ := Option.map_eq_some_iff.mp hentry
  exact ⟨record, List.mem_of_find?_eq_some hfind, hrecord⟩

/-- The body that a request writes, told from its record. -/
theorem Collection.Analyses.exists_raw {c : Collection} {rs : List Request} (h : c.Analyses rs)
    {r : Request} (hr : r ∈ rs) {b : Body} (hb : r.body = some b) {content : String}
    (hcontent : b.contentToWrite? = some content) :
    ∃ record ∈ c.requests, record.request = r ∧ record.bodyMode = some "raw" ∧
      b.filename = record.bodyFile ∧
      ∃ raw, record.rawBody = some raw ∧ raw ≠ "" ∧ content = translate raw := by
  obtain ⟨record, hrecord, rfl⟩ := h.exists_record hr
  exact ⟨record, hrecord, rfl, RequestRecord.raw_of_body? hb hcontent⟩

/-- The path of a body with content leads directly into the directory of the bodies. -/
theorem Body.destination_path {b : Body} (hname : IsName b.filename) (layout : Layout)
    (simulation : String) (here : Location) : (b.path layout.bodies simulation).destination here =
      (layout.bodiesOf simulation).destination here ++ [b.filename] :=
  Path.destination_join hname here

end LoadScenario
