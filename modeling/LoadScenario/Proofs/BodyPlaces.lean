import LoadScenario.Proofs.OutputNames
import LoadScenario.Scenario.Block

/-!
# Where the files of bodies lie

A body is sent from a file in the directory of its simulation, and the scenario says where that file
is below the directory of all bodies. For this to be right the file has to lie below the directory
of the simulation. The name of the file is joined to that directory as it is, so everything hangs on
the name. One that is made of the name of a request always leads inside. One that comes from a
header leads inside if it is not absolute, has no parent step and names something, and otherwise
there is a directory that it leads out of, or no further into.
-/

namespace LoadScenario

open Work Scenario

/-! ## Leading inside -/

def Path.named (parts : List String) : List String :=
  parts.filter fun part => !(part = "" || part = ".")

/-- A text that leads from a directory to something below it. -/
structure LeadsInside (inner : String) : Prop where
  relative : Path.isRooted inner = false
  noParent : ".." ∉ (Path.mk inner).parts
  names : Path.named (Path.mk inner).parts ≠ []

theorem IsName.leadsInside {s : String} (h : IsName s) : LeadsInside s := by
  obtain ⟨hempty, hdot, hup⟩ := h.leads
  have hparts := Path.parts_of_not_mem h.slash
  have hnamed : Path.named [s] = [s] := List.filter_cons_of_pos (by simp [hempty, hdot])
  refine ⟨Path.isRooted_of_not_mem h.slash, ?_, ?_⟩
  · rw [hparts, List.mem_singleton]
    exact hup.symm
  · rw [hparts, hnamed]
    exact List.cons_ne_nil _ _

namespace Path

/-- A path that goes on from a directory without a parent step and ends below it, wherever relative
paths start. -/
structure Below (dir p : Path) : Prop where
  /-- An empty part at the end of the directory is the slash that a path goes on behind. -/
  goesOn : ∃ front rest, (dir.parts = front ∨ dir.parts = front ++ [""]) ∧
    p.parts = front ++ rest ∧ ".." ∉ rest
  inside : ∀ here, ∃ names, names ≠ [] ∧ p.destination here = dir.destination here ++ names

theorem lead_of_not_mem {parts : List String} (h : ".." ∉ parts) (l : Location) :
    lead l parts = l ++ named parts := by
  induction parts generalizing l with
  | nil => exact (List.append_nil l).symm
  | cons part parts ih =>
      rw [List.mem_cons, not_or] at h
      rw [lead]
      split
      next hidle =>
        have hpart : named (part :: parts) = named parts :=
          List.filter_cons_of_neg (by rcases hidle with rfl | rfl <;> decide)
        rw [ih h.2, hpart]
      next hnamed =>
        have hpart : named (part :: parts) = part :: named parts :=
          List.filter_cons_of_pos (by simpa using hnamed)
        rw [if_neg (Ne.symm h.1), ih h.2, hpart, List.append_assoc, List.singleton_append]

theorem goesOn_join (dir : Path) {inner : String} (h : isRooted inner = false) :
    ∃ front, (dir.parts = front ∨ dir.parts = front ++ [""]) ∧
      (dir.join inner).parts = front ++ (Path.mk inner).parts := by
  cases hdir : dir.isEmpty with
  | true =>
      obtain ⟨text⟩ := dir
      obtain rfl : text = "" := String.isEmpty_iff.mp hdir
      exact ⟨[], .inr rfl, by rw [empty_join h, List.nil_append]⟩
  | false => exact parts_join hdir h

theorem below_join {inner : String} (h : LeadsInside inner) (dir : Path) :
    Below dir (dir.join inner) := by
  constructor
  · obtain ⟨front, hfront, hparts⟩ := goesOn_join dir h.relative
    exact ⟨front, _, hfront, hparts, h.noParent⟩
  · intro here
    exact ⟨_, h.names,
      (destination_join_relative h.relative here).trans (lead_of_not_mem h.noParent _)⟩

def sample : Path := join ⟨"b"⟩ "s"

/-- What leads below that directory leads inside. -/
theorem Below.leadsInside {inner : String} (h : Below sample (sample.join inner)) :
    LeadsInside inner := by
  have hsample : ∀ here, sample.destination here = here ++ ["b", "s"] := by
    intro here
    have hparts : sample.parts = ["b", "s"] := by decide
    have hrelative : isRooted sample.text = false := by decide
    rw [destination, hrelative, hparts, lead_of_not_mem (by decide)]
    rfl
  have hrelative : isRooted inner = false := by
    rw [← Bool.not_eq_true]
    intro hrooted
    have hjoin : sample.join inner = ⟨inner⟩ := by rw [join, if_pos hrooted]
    -- Wherever relative paths start, an absolute name leads to the same place.
    obtain ⟨names, -, hdestination⟩ := h.inside (lead [] (Path.mk inner).parts)
    have hlength := congrArg List.length hdestination
    rw [hjoin, destination, hrooted, hsample] at hlength
    simp at hlength
  obtain ⟨front, hfront, hparts⟩ := goesOn_join sample hrelative
  have hfixed : ∀ front, (sample.parts = front ∨ sample.parts = front ++ [""]) →
      front = ["b", "s"] := by
    have hsampleParts : sample.parts = ["b", "s"] := by decide
    rw [hsampleParts]
    rintro front (rfl | hend)
    · rfl
    · have hlast := congrArg List.getLast? hend
      rw [List.getLast?_concat] at hlast
      exact absurd hlast (by decide)
  have hnoParent : ".." ∉ (Path.mk inner).parts := by
    obtain ⟨front', rest, hfront', hparts', hup⟩ := h.goesOn
    rw [hfixed front' hfront'] at hparts'
    rw [hfixed front hfront] at hparts
    rw [List.append_cancel_left (hparts.symm.trans hparts')]
    exact hup
  refine ⟨hrelative, hnoParent, ?_⟩
  obtain ⟨names, hnames, hdestination⟩ := h.inside []
  rw [destination_join_relative hrelative, lead_of_not_mem hnoParent] at hdestination
  rw [List.append_cancel_left hdestination]
  exact hnames

theorem destination_join_join (p : Path) {a inner : String} (ha : a ≠ "")
    (h : isRooted inner = false) (here : Location) :
    ((p.join a).join inner).destination here = (p.join (a ++ "/" ++ inner)).destination here := by
  have hfull : a.isEmpty = false := by
    rw [← Bool.not_eq_true, String.isEmpty_iff]
    exact ha
  have hparts : (Path.mk (a ++ "/" ++ inner)).parts =
      (Path.mk a).parts ++ (Path.mk inner).parts := by
    refine parts_eq_append ?_
    rw [String.toList_append, String.toList_append, List.append_assoc]
    rfl
  have hrooted : isRooted (a ++ "/" ++ inner) = isRooted a := by
    rw [String.append_assoc, isRooted_append hfull]
  rw [destination_join_relative h]
  cases hside : isRooted a with
  | true =>
      rw [hside] at hrooted
      rw [join, if_pos hside, join, if_pos hrooted, destination, destination, hparts, lead_append]
      simp only [hside, hrooted]
  | false =>
      rw [hside] at hrooted
      rw [destination_join_relative hside, destination_join_relative hrooted, hparts, lead_append]

end Path

/-! ## The paths of a request -/

theorem mem_effects_bodyWork {r : Request} {b : Body} (hb : r.body = some b) (bodies : Path)
    (simulation : String) {e : BodyStep} :
    e ∈ (bodyWork bodies simulation [r]).effects ↔
      e ∈ (BodyJob.mk r.name (b.path bodies simulation) b.contentToWrite?).steps := by
  have hjobs : bodyJobs bodies simulation [r] =
      [⟨r.name, b.path bodies simulation, b.contentToWrite?⟩] := by
    rw [bodyJobs, List.filterMap_cons, hb]
    rfl
  have hsteps := (underway_bodyJobs (bodyJobs bodies simulation [r])).steps
  rw [← bodyWork_eq, List.nil_append, hjobs, List.flatMap_singleton] at hsteps
  exact hsteps.mem_iff

namespace RequestRecord

/-- The name of a file that does not come from a header is a name. -/
theorem leadsInside_filename {r : RequestRecord} {b : Body} (hb : r.body? = some b)
    (h : r.bodyMode = some "binary" → ∀ name, filenameFromHeaders? r.headerMap = some name →
      LeadsInside name) : LeadsInside b.filename := by
  obtain ⟨-, rfl⟩ | ⟨hbinary, rfl⟩ := body?_cases hb
  · exact r.isName_bodyFile.leadsInside
  · cases hname : filenameFromHeaders? r.headerMap with
    | some name => exact h hbinary name hname
    | none =>
        show LeadsInside unnamedBody
        exact ⟨by decide, by decide, by decide⟩

theorem body?_of_mode {r : RequestRecord}
    (hmode : r.bodyMode = some "raw" ∨ r.bodyMode = some "binary") : ∃ b, r.body? = some b := by
  rcases hmode with hmode | hmode
  · exact ⟨_, body?_raw hmode⟩
  · exact ⟨_, body?_binary hmode⟩

/-- Whatever the directories are called, the file that is written or looked for lies below the
directory of the simulation and is the one that the scenario names, unless a header gives a name
that does not lead inside. -/
theorem body_paths_below_iff (r : RequestRecord)
    (hmode : r.bodyMode = some "raw" ∨ r.bodyMode = some "binary") :
    ∃ b, r.body? = some b ∧
      ((∀ bodies simulation, ∀ e ∈ (bodyWork bodies simulation [r.request]).effects,
        Path.Below (bodies.join simulation) e.path ∧ (simulation ≠ "" → ∀ here,
          e.path.destination here = (bodies.join (resource simulation b)).destination here)) ↔
      (r.bodyMode = some "binary" → ∀ name, filenameFromHeaders? r.headerMap = some name →
        LeadsInside name)) := by
  obtain ⟨b, hb⟩ := body?_of_mode hmode
  refine ⟨b, hb, ?_⟩
  constructor
  · intro hbelow hbinary name hname
    have hcheck := (mem_effects_bodyWork (r := r.request) hb ⟨"b"⟩ "s").mpr
      (BodyJob.check_mem_steps _)
    have hfilename : b.filename = name := by
      rw [body?, hbinary, Option.bind_some, if_neg (by decide), if_pos rfl, hname] at hb
      cases hb
      rfl
    rw [← hfilename]
    exact (hbelow _ _ _ hcheck).1.leadsInside
  · intro hnames bodies simulation e he
    have hinside := leadsInside_filename hb hnames
    have hpath : e.path = (bodies.join simulation).join b.filename :=
      BodyJob.path_of_mem_steps ((mem_effects_bodyWork (r := r.request) hb _ _).mp he)
    rw [hpath]
    exact ⟨Path.below_join hinside _, fun hsimulation here =>
      Path.destination_join_join bodies hsimulation hinside.relative here⟩

def uploading (name : String) : RequestRecord where
  id := "1"
  name := "Upload"
  method := "POST"
  url := "/files"
  headers := "Content-Disposition: attachment; filename=" ++ name
  bodyMode := some "binary"
  rawBody := none
  helper := none
  credentials := none
  tests := none

theorem body_paths_below_uploading : ∃ b, (uploading "photos/cat.png").body? = some b ∧
    ∀ bodies simulation,
      ∀ e ∈ (bodyWork bodies simulation [(uploading "photos/cat.png").request]).effects,
        Path.Below (bodies.join simulation) e.path ∧ (simulation ≠ "" → ∀ here,
          e.path.destination here = (bodies.join (resource simulation b)).destination here) := by
  obtain ⟨b, hb, hiff⟩ := body_paths_below_iff (uploading "photos/cat.png") (.inr rfl)
  refine ⟨b, hb, hiff.mpr fun _ name hname => ?_⟩
  have hcat : filenameFromHeaders? (uploading "photos/cat.png").headerMap =
      some "photos/cat.png" := by decide +kernel
  obtain rfl := Option.some.inj (hcat.symm.trans hname)
  exact ⟨by decide, by decide, by decide⟩

/-- A name that goes up leads to the bodies of other simulations. -/
theorem not_below_uploading : ∃ e ∈ (bodyWork ⟨"bodies"⟩ "Notes"
      [(uploading "../secret.bin").request]).effects,
    ¬ Path.Below (Path.join ⟨"bodies"⟩ "Notes") e.path ∧
      e.path.destination [] = ["bodies", "secret.bin"] := by
  have hb : (uploading "../secret.bin").request.body = some ⟨"../secret.bin", none⟩ := by
    decide +kernel
  refine ⟨_, (mem_effects_bodyWork hb _ _).mpr (BodyJob.check_mem_steps _), fun h => ?_, ?_⟩
  · obtain ⟨names, -, hdestination⟩ := h.inside []
    have hstart : ["bodies", "Notes"] <+: ["bodies", "secret.bin"] := ⟨names, hdestination.symm⟩
    exact absurd hstart (by decide)
  · decide

end RequestRecord

end LoadScenario
