import LoadScenario.Proofs.OutputSteps
import Mathlib.Data.List.Forall2
import Mathlib.Data.List.Perm.Basic

/-!
# The sequence of the requests

The ids of a collection are followed folder by folder, the folders in the order of their names. What
order that is, is said here without sorting: a list of the same folders in which no name is behind a
greater one, and in which folders of one name stand as in the export. There is exactly one such
list, and so a collection has one sequence of ids. Where all names are different the export has no
say in it at all.

Along that sequence each id means the first request that carries it. Deriving the requests goes as
far as there are such requests, and the first id without one decides.
-/

namespace LoadScenario

def codePoints (s : String) : List Nat := s.toList.map Char.toNat

/-- By code points, the name of the first folder is not behind the other name. -/
def Folder.InOrder (f g : Folder) : Prop :=
  ¬ List.Lex (· < ·) (codePoints g.name) (codePoints f.name)

instance (f g : Folder) : Decidable (f.InOrder g) :=
  inferInstanceAs (Decidable (¬ List.Lex (· < ·) (codePoints g.name) (codePoints f.name)))

/-- Some folders in the order of their names, those of one name in the order in which they are
given. -/
structure SortedByName (folders sorted : List Folder) : Prop where
  perm : sorted.Perm folders
  ordered : sorted.Pairwise Folder.InOrder
  stable : ∀ name, sorted.filter (fun f => f.name = name) = folders.filter fun f => f.name = name

namespace Collection

/-- The ids that some folders and the collection list, each with the name of what lists it. -/
def listed (c : Collection) (folders : List Folder) : List (String × String) :=
  folders.flatMap (fun f => f.order.map (f.name, ·)) ++ c.order.map (c.name, ·)

def Carries (c : Collection) (id : String) : Prop := ∃ r ∈ c.requests, r.id = id

instance (c : Collection) (id : String) : Decidable (c.Carries id) :=
  inferInstanceAs (Decidable (∃ r ∈ c.requests, r.id = id))

/-- The request is the first that carries the id. -/
def FirstWith (c : Collection) (id : String) (r : RequestRecord) : Prop :=
  ∃ before after, c.requests = before ++ r :: after ∧ r.id = id ∧ ∀ q ∈ before, q.id ≠ id

end Collection

/-! ## Folders by name -/

theorem lex_iff_lex_toNat {s t : List Char} :
    List.Lex (· < ·) s t ↔ List.Lex (· < ·) (s.map Char.toNat) (t.map Char.toNat) := by
  induction s generalizing t with
  | nil => cases t <;> simp
  | cons c s ih =>
      cases t with
      | nil => simp
      | cons d t =>
          have hlt : c < d ↔ c.toNat < d.toNat := Iff.rfl
          have heq : c = d ↔ c.toNat = d.toNat := ⟨congrArg _, fun h => Char.toNat_inj.mp h⟩
          rw [List.map_cons, List.map_cons, List.cons_lex_cons_iff, List.cons_lex_cons_iff, ih,
            hlt, heq]

theorem Folder.inOrder_iff {f g : Folder} : f.InOrder g ↔ f.name ≤ g.name := by
  rw [← String.not_lt, InOrder, codePoints, codePoints, ← lex_iff_lex_toNat]
  rfl

/-- The order in which folders are followed. -/
def byName (folders : List Folder) : List Folder := folders.mergeSort fun a b => a.name ≤ b.name

theorem sortedByName_byName (folders : List Folder) : SortedByName folders (byName folders) := by
  have htrans : ∀ a b c : Folder, decide (a.name ≤ b.name) → decide (b.name ≤ c.name) →
      decide (a.name ≤ c.name) := by
    intro a b c hab hbc
    rw [decide_eq_true_eq] at hab hbc ⊢
    exact String.le_trans hab hbc
  have htotal : ∀ a b : Folder, decide (a.name ≤ b.name) || decide (b.name ≤ a.name) := by
    intro a b
    rw [Bool.or_eq_true, decide_eq_true_eq, decide_eq_true_eq]
    exact String.le_total a.name b.name
  have hperm := List.mergeSort_perm folders fun a b => decide (a.name ≤ b.name)
  refine ⟨hperm, ?_, fun name => ?_⟩
  · refine (List.pairwise_mergeSort htrans htotal folders).imp fun hle => ?_
    exact Folder.inOrder_iff.mpr (decide_eq_true_eq.mp hle)
  · -- The folders of one name are a sorted part of the list, and sorting keeps such a part.
    have hsame : (folders.filter fun f => f.name = name).Pairwise
        fun a b => decide (a.name ≤ b.name) := by
      refine List.pairwise_of_forall_mem_list fun a ha b hb => ?_
      have ha := decide_eq_true_eq.mp (List.mem_filter.mp ha).2
      have hb := decide_eq_true_eq.mp (List.mem_filter.mp hb).2
      have hnames : a.name = b.name := ha.trans hb.symm
      exact decide_eq_true_eq.mpr (hnames ▸ String.le_refl a.name)
    have hsub := List.sublist_mergeSort htrans htotal hsame List.filter_sublist
    have hfilter := hsub.filter fun f => f.name = name
    rw [List.filter_filter] at hfilter
    simp only [Bool.and_self] at hfilter
    exact (hfilter.eq_of_length (hperm.filter _).length_eq.symm).symm

section

variable {folders folders' sorted other : List Folder} {f g : Folder}

theorem mem_of_filter_name_eq
    (h : ∀ name, sorted.filter (fun f => f.name = name) = other.filter fun f => f.name = name)
    (hf : f ∈ sorted) : f ∈ other := by
  have hself : f ∈ sorted.filter fun k => k.name = f.name := by simp [hf]
  rw [h] at hself
  exact (List.mem_filter.mp hself).1

theorem first_le_of_ordered (h : (g :: other).Pairwise Folder.InOrder) (hf : f ∈ g :: other) :
    g.name ≤ f.name := by
  rcases List.mem_cons.mp hf with rfl | hf
  · exact String.le_refl _
  · exact Folder.inOrder_iff.mp ((List.pairwise_cons.mp h).1 f hf)

theorem SortedByName.unique (h : SortedByName folders sorted) (h' : SortedByName folders other) :
    sorted = other := by
  have hfilter : ∀ name, sorted.filter (fun f => f.name = name) =
      other.filter fun f => f.name = name := fun name => (h.stable name).trans (h'.stable name).symm
  have hordered := h.ordered
  have hordered' := h'.ordered
  clear h h'
  induction sorted generalizing other with
  | nil =>
      cases other with
      | nil => rfl
      | cons g other => simpa using hfilter g.name
  | cons f sorted ih =>
      cases other with
      | nil => simpa using hfilter f.name
      | cons g other =>
          -- Each of the first two folders is in the other list too, so neither name is greater.
          have hle : g.name ≤ f.name :=
            first_le_of_ordered hordered' (mem_of_filter_name_eq hfilter List.mem_cons_self)
          have hle' : f.name ≤ g.name := first_le_of_ordered hordered
            (mem_of_filter_name_eq (fun name => (hfilter name).symm) List.mem_cons_self)
          have hname : g.name = f.name := String.le_antisymm hle hle'
          have hfirst := hfilter f.name
          rw [List.filter_cons_of_pos (by simp), List.filter_cons_of_pos (by simp [hname])]
            at hfirst
          obtain rfl := (List.cons.inj hfirst).1
          refine congrArg (f :: ·) (ih (fun name => ?_) hordered.of_cons hordered'.of_cons)
          have hrest := hfilter name
          rw [List.filter_cons, List.filter_cons] at hrest
          split at hrest
          · exact (List.cons.inj hrest).2
          · exact hrest

theorem length_filter_name_le_one (hnames : (folders.map (·.name)).Nodup) (name : String) :
    (folders.filter fun f => f.name = name).length ≤ 1 := by
  have hcount := List.nodup_iff_count_le_one.mp hnames name
  rw [List.count, List.countP_map, List.countP_eq_length_filter] at hcount
  exact hcount

/-- If all names are different, the order does not depend on the export. -/
theorem SortedByName.permute (h : SortedByName folders sorted) (hperm : folders'.Perm folders)
    (hnames : (folders.map (·.name)).Nodup) : SortedByName folders' sorted := by
  refine ⟨h.perm.trans hperm.symm, h.ordered, fun name => ?_⟩
  have hfilter := hperm.filter fun f => f.name = name
  have hone := length_filter_name_le_one hnames name
  rw [h.stable]
  generalize folders.filter (fun f => f.name = name) = same at hfilter hone
  match same with
  | [] => exact hfilter.eq_nil.symm
  | [f] => exact hfilter.eq_singleton.symm
  | _ :: _ :: _ =>
      simp only [List.length_cons] at hone
      omega

end

/-! ## Along the sequence -/

namespace Collection

variable {c : Collection} {id : String} {r : RequestRecord}

theorem find?_eq_some_iff : c.find? id = some r ↔ c.FirstWith id r := by
  rw [find?, List.find?_eq_some_iff_append]
  constructor
  · rintro ⟨hid, before, after, hrequests, hbefore⟩
    exact ⟨before, after, hrequests, by simpa using hid, fun q hq => by simpa using hbefore q hq⟩
  · rintro ⟨before, after, hrequests, hid, hbefore⟩
    exact ⟨by simpa using hid, before, after, hrequests, fun q hq => by simpa using hbefore q hq⟩

theorem find?_eq_none_iff : c.find? id = none ↔ ¬ c.Carries id := by
  rw [find?, List.find?_eq_none, Carries]
  simp

theorem Carries.exists_firstWith (h : c.Carries id) : ∃ r, c.FirstWith id r := by
  cases hfind : c.find? id with
  | none => exact absurd h (find?_eq_none_iff.mp hfind)
  | some r => exact ⟨r, find?_eq_some_iff.mp hfind⟩

theorem exists_records {entries : List (String × String)}
    (h : ∀ entry ∈ entries, c.Carries entry.2) :
    ∃ records, List.Forall₂ (fun entry r => c.FirstWith entry.2 r) entries records := by
  induction entries with
  | nil => exact ⟨[], .nil⟩
  | cons entry entries ih =>
      obtain ⟨r, hr⟩ := (h entry List.mem_cons_self).exists_firstWith
      obtain ⟨records, hrecords⟩ := ih fun e he => h e (List.mem_cons_of_mem entry he)
      exact ⟨r :: records, .cons hr hrecords⟩

/-- If not every id has a request, there is a first without one. -/
theorem exists_first_missing {entries : List (String × String)}
    (h : ¬ ∀ entry ∈ entries, c.Carries entry.2) :
    ∃ before container id after, entries = before ++ (container, id) :: after ∧
      (∀ entry ∈ before, c.Carries entry.2) ∧ ¬ c.Carries id := by
  induction entries with
  | nil => exact absurd (fun _ => nofun) h
  | cons entry entries ih =>
      obtain ⟨container, id⟩ := entry
      by_cases hid : c.Carries id
      · have hrest : ¬ ∀ entry ∈ entries, c.Carries entry.2 := fun hall =>
          h (List.forall_mem_cons.mpr ⟨hid, hall⟩)
        obtain ⟨before, container', id', after, rfl, hbefore, hmissing⟩ := ih hrest
        exact ⟨(container, id) :: before, container', id', after, rfl,
          List.forall_mem_cons.mpr ⟨hid, hbefore⟩, hmissing⟩
      · exact ⟨[], container, id, entries, rfl, fun _ => nofun, hid⟩

theorem sequence_eq (c : Collection) : c.sequence = c.listed (byName c.folders) := rfl

end Collection

namespace Simulation

theorem analyzeAll_append {c : Collection} {before : List (String × String)}
    {records : List RequestRecord}
    (h : List.Forall₂ (fun entry r => c.FirstWith entry.2 r) before records)
    (rest : List (String × String)) :
    analyzeAll c (before ++ rest) =
      ((analyzeAll c rest).1.map (records.map (·.request) ++ ·),
        records.flatMap (·.warnings) ++ (analyzeAll c rest).2) := by
  induction h with
  | nil =>
      rw [List.nil_append]
      rcases analyzeAll c rest with ⟨_ | _, _⟩
      · rfl
      · rfl
  | @cons entry r before records hr _ ih =>
      obtain ⟨container, id⟩ := entry
      rw [List.cons_append, analyzeAll, Collection.find?_eq_some_iff.mpr hr]
      simp only [ih]
      rcases analyzeAll c rest with ⟨_ | _, _⟩
      · simp [Except.map]
      · simp [Except.map]

theorem analyzeAll_eq_ok {c : Collection} {entries : List (String × String)}
    {records : List RequestRecord}
    (h : List.Forall₂ (fun entry r => c.FirstWith entry.2 r) entries records) :
    analyzeAll c entries = (.ok (records.map (·.request)), records.flatMap (·.warnings)) := by
  have hall := analyzeAll_append h []
  rw [List.append_nil] at hall
  simpa [analyzeAll, Except.map] using hall

theorem analyzeAll_eq_error {c : Collection} {before after : List (String × String)}
    {container id : String} {records : List RequestRecord}
    (h : List.Forall₂ (fun entry r => c.FirstWith entry.2 r) before records)
    (hid : ¬ c.Carries id) :
    analyzeAll c (before ++ (container, id) :: after) =
      (.error (.requestNotFound id container), records.flatMap (·.warnings)) := by
  rw [analyzeAll_append h, analyzeAll, Collection.find?_eq_none_iff.mpr hid]
  simp [Except.map]

theorem analyzeAll_congr {c c' : Collection} (h : c'.requests = c.requests)
    (entries : List (String × String)) : analyzeAll c' entries = analyzeAll c entries := by
  induction entries with
  | nil => rfl
  | cons entry entries ih =>
      obtain ⟨container, id⟩ := entry
      rw [analyzeAll, analyzeAll, Collection.find?, Collection.find?, h, ih]

section

variable {s : Simulation} {c : Collection} {feeder : Feeder} {ws : List Warning}

theorem deriveRequests_ok {requests : List Request} (hstage : s.stage = .feederBuilt c feeder)
    (h : analyzeAll c c.sequence = (.ok requests, ws)) :
    s.deriveRequests = (.ok (), { s with
      stage := .requestsBuilt c feeder requests
      warnings := s.warnings ++ ws }) := by
  simp only [deriveRequests, hstage, h]

theorem deriveRequests_error {failure : Failure} (hstage : s.stage = .feederBuilt c feeder)
    (h : analyzeAll c c.sequence = (.error failure, ws)) :
    s.deriveRequests = (.error failure, { s with warnings := s.warnings ++ ws }) := by
  simp only [deriveRequests, hstage, h]

/-- Two simulations that have come equally far, with the same requests and warnings, and write the
same. -/
structure Agree (s s' : Simulation) : Prop where
  state : s'.state = s.state
  requests : s'.requests = s.requests
  warnings : s'.warnings = s.warnings
  written : ∀ (W : Type) [FileAccess (StateM W)] (schedule : Schedule) (layout : Layout)
    (template : Option Path) (w : W),
    (runOn (s'.write schedule layout template) w).1.1 =
        (runOn (s.write schedule layout template) w).1.1 ∧
      (runOn (s'.write schedule layout template) w).2 =
        (runOn (s.write schedule layout template) w).2

variable {s' : Simulation} {c' : Collection}

theorem agree_of_feederBuilt (hstage : s.stage = .feederBuilt c feeder)
    (hstage' : s'.stage = .feederBuilt c' feeder) (hwarnings : s'.warnings = s.warnings) :
    Agree s s' where
  state := by rw [state, state, hstage, hstage']; rfl
  requests := by rw [requests, requests, hstage, hstage']; rfl
  warnings := hwarnings
  written W _ schedule layout template w := by
    simp only [write, hstage, hstage', refuse, state]
    exact ⟨rfl, rfl⟩

/-- Of its collection, a simulation with requests writes no more than the name. -/
theorem agree_of_requestsBuilt {requests : List Request}
    (hstage : s.stage = .requestsBuilt c feeder requests)
    (hstage' : s'.stage = .requestsBuilt c' feeder requests) (hname : s'.nameFor c' = s.nameFor c)
    (hwarnings : s'.warnings = s.warnings) : Agree s s' where
  state := by rw [state, state, hstage, hstage']; rfl
  requests := by rw [Simulation.requests, Simulation.requests, hstage, hstage']; rfl
  warnings := hwarnings
  written W _ schedule layout template w := by
    obtain ⟨hanswer, hfiles⟩ := runOn_write_eq hstage schedule layout template w
    obtain ⟨hanswer', hfiles'⟩ := runOn_write_eq hstage' schedule layout template w
    rw [hanswer, hfiles, hanswer', hfiles', hname]
    exact ⟨rfl, rfl⟩

/-- What deriving the requests comes to is said by the sequence of ids and their requests. -/
theorem agree_deriveRequests (hstage : s.stage = .feederBuilt c feeder)
    (hstage' : s'.stage = .feederBuilt c' feeder) (hname : s'.nameFor c' = s.nameFor c)
    (hwarnings : s'.warnings = s.warnings) (hrequests : c'.requests = c.requests)
    (hsequence : c'.sequence = c.sequence) :
    s'.deriveRequests.1 = s.deriveRequests.1 ∧ Agree s.deriveRequests.2 s'.deriveRequests.2 := by
  have hanalysis : analyzeAll c' c'.sequence = analyzeAll c c.sequence := by
    rw [hsequence, analyzeAll_congr hrequests]
  rcases hresult : analyzeAll c c.sequence with ⟨failure | requests, ws⟩
  · rw [deriveRequests_error hstage hresult,
      deriveRequests_error hstage' (hanalysis.trans hresult)]
    exact ⟨rfl, agree_of_feederBuilt hstage hstage' (by rw [hwarnings])⟩
  · rw [deriveRequests_ok hstage hresult, deriveRequests_ok hstage' (hanalysis.trans hresult)]
    exact ⟨rfl, agree_of_requestsBuilt rfl rfl hname (by rw [hwarnings])⟩

theorem deriveRequests_of_carries (hstage : s.stage = .feederBuilt c feeder)
    (h : ∀ entry ∈ c.sequence, c.Carries entry.2) :
    ∃ records, List.Forall₂ (fun entry r => c.FirstWith entry.2 r) c.sequence records ∧
      s.deriveRequests = (.ok (), { s with
        stage := .requestsBuilt c feeder (records.map (·.request))
        warnings := s.warnings ++ records.flatMap (·.warnings) }) := by
  obtain ⟨records, hrecords⟩ := Collection.exists_records h
  exact ⟨records, hrecords, deriveRequests_ok hstage (analyzeAll_eq_ok hrecords)⟩

theorem deriveRequests_of_missing {before after : List (String × String)} {container id : String}
    (hstage : s.stage = .feederBuilt c feeder)
    (hsequence : c.sequence = before ++ (container, id) :: after)
    (hbefore : ∀ entry ∈ before, c.Carries entry.2) (hid : ¬ c.Carries id) :
    ∃ records, List.Forall₂ (fun entry r => c.FirstWith entry.2 r) before records ∧
      s.deriveRequests = (.error (.requestNotFound id container), { s with
        warnings := s.warnings ++ records.flatMap (·.warnings) }) := by
  obtain ⟨records, hrecords⟩ := Collection.exists_records hbefore
  refine ⟨records, hrecords, deriveRequests_error hstage ?_⟩
  rw [hsequence]
  exact analyzeAll_eq_error hrecords hid

theorem deriveRequests_ok_iff (hstage : s.stage = .feederBuilt c feeder) :
    s.deriveRequests.1 = .ok () ↔ ∀ entry ∈ c.sequence, c.Carries entry.2 := by
  constructor
  · intro hanswer
    by_contra hall
    obtain ⟨before, container, id, after, hsequence, hbefore, hid⟩ :=
      Collection.exists_first_missing hall
    obtain ⟨records, -, hderived⟩ := deriveRequests_of_missing hstage hsequence hbefore hid
    rw [hderived] at hanswer
    cases hanswer
  · intro hall
    obtain ⟨records, -, hderived⟩ := deriveRequests_of_carries hstage hall
    rw [hderived]

end

/-- The requests are derived along one sequence of ids, the orders of the folders by name and the
order of the collection behind them. If each id has a request, they are the analyses of the first
requests that carry the ids; otherwise the first id without one is refused, and nothing but warnings
has changed. And where folders have different names, their order in the export changes neither that
nor what is written then. -/
theorem deriveRequests_by_name (s : Simulation) (c : Collection) (feeder : Feeder)
    (hstage : s.stage = .feederBuilt c feeder) :
    ∃ sorted, SortedByName c.folders sorted ∧
      (∀ other, SortedByName c.folders other → other = sorted) ∧
      (s.deriveRequests.1 = .ok () ↔ ∀ entry ∈ c.listed sorted, c.Carries entry.2) ∧
      ((∀ entry ∈ c.listed sorted, c.Carries entry.2) →
        ∃ records,
          List.Forall₂ (fun entry r => c.FirstWith entry.2 r) (c.listed sorted) records ∧
          s.deriveRequests = (.ok (), { s with
            stage := .requestsBuilt c feeder (records.map (·.request))
            warnings := s.warnings ++ records.flatMap (·.warnings) })) ∧
      (∀ before container id after, c.listed sorted = before ++ (container, id) :: after →
        (∀ entry ∈ before, c.Carries entry.2) → ¬ c.Carries id →
          ∃ records, List.Forall₂ (fun entry r => c.FirstWith entry.2 r) before records ∧
            s.deriveRequests = (.error (.requestNotFound id container), { s with
              warnings := s.warnings ++ records.flatMap (·.warnings) })) ∧
      ∀ folders, folders.Perm c.folders → (c.folders.map (·.name)).Nodup →
        let s' := { s with stage := .feederBuilt { c with folders } feeder }
        s'.deriveRequests.1 = s.deriveRequests.1 ∧
          Agree s.deriveRequests.2 s'.deriveRequests.2 := by
  have hsorted := sortedByName_byName c.folders
  refine ⟨byName c.folders, hsorted, fun other hother => hother.unique hsorted, ?_⟩
  rw [← Collection.sequence_eq]
  refine ⟨deriveRequests_ok_iff hstage, deriveRequests_of_carries hstage, ?_, ?_⟩
  · intro before container id after hsequence hbefore hid
    exact deriveRequests_of_missing hstage hsequence hbefore hid
  · intro folders hperm hnames s'
    have hsequence : Collection.sequence { c with folders } = c.sequence := by
      rw [Collection.sequence_eq, Collection.sequence_eq,
        (sortedByName_byName folders).unique (hsorted.permute hperm hnames)]
      rfl
    exact agree_deriveRequests hstage rfl rfl rfl rfl hsequence

/-- A collection with two folders of one name around the first by name, and two requests with one
id. -/
def shop : Collection where
  name := "shop"
  folders := [⟨"b", ["2"]⟩, ⟨"a", ["1", "2"]⟩, ⟨"b", ["1"]⟩]
  requests := [⟨"1", "first", "GET", "/", "", none, none, none, none, none⟩,
    ⟨"2", "second", "GET", "/", "", none, none, none, none, none⟩,
    ⟨"1", "third", "GET", "/", "", none, none, none, none, none⟩]
  order := []

theorem sortedByName_shop :
    SortedByName shop.folders [⟨"a", ["1", "2"]⟩, ⟨"b", ["2"]⟩, ⟨"b", ["1"]⟩] where
  perm := by decide
  ordered := by decide
  stable name := by
    by_cases ha : "a" = name
    · subst ha
      rfl
    · by_cases hb : "b" = name
      · subst hb
        rfl
      · simp [shop, ha, hb]

theorem deriveRequests_shop :
    let listing (order : List String) : Simulation :=
      { new none with stage := .feederBuilt { shop with order } .empty }
    (listing ["2"]).deriveRequests.1 = .ok () ∧
      ∃ s, (listing ["9", "2"]).deriveRequests = (.error (.requestNotFound "9" "shop"), s) := by
  intro listing
  constructor
  · obtain ⟨sorted, -, honly, hok, -⟩ := deriveRequests_by_name (listing ["2"]) _ _ rfl
    obtain rfl := honly _ sortedByName_shop
    exact hok.mpr (by decide)
  · obtain ⟨sorted, -, honly, -, -, hmissing, -⟩ :=
      deriveRequests_by_name (listing ["9", "2"]) _ _ rfl
    obtain rfl := honly _ sortedByName_shop
    obtain ⟨records, -, hderived⟩ := hmissing
      [("a", "1"), ("a", "2"), ("b", "2"), ("b", "1")] "shop" "9" [("shop", "2")] rfl
      (by decide) (by decide)
    exact ⟨_, hderived⟩

end Simulation

end LoadScenario
