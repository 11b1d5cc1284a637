import LoadScenario.Proofs.KeptBodies

/-!
# Whether the body of one request gets into its file

A body says what its file is to hold, or it says nothing, and then the user provides the file. But
an empty content counts as none where the write is registered, and the check that follows knows only
whether there is a file. So with an empty body the file is left as it is: if it is not there, the
user is asked for it, and if it holds something else, perhaps from an earlier run, it keeps that and
nobody is told.

With any other content the file is there in the end and holds it. The check waits for the write, but
that is not even needed to know the files: a check changes none, so that they are those after the
writes alone.
-/

namespace LoadScenario

open Work

/-! ## The files after some steps -/

/-- Whether a step writes a file. -/
def BodyStep.isWrite : BodyStep → Bool
  | write _ _ => true
  | check _ _ => false

/-- Checks change no files. -/
theorem files_runBodySteps_filter (es : List BodyStep) (fs : FileSystem) :
    (runOn (runBodySteps es : StateM FileSystem _) fs).2 =
      (runOn (runBodySteps (es.filter BodyStep.isWrite) : StateM FileSystem _) fs).2 := by
  induction es generalizing fs with
  | nil => rfl
  | cons e es ih =>
      cases e with
      | check request path => exact ih fs
      | write path content => exact ih _

theorem files_runBodySteps_write (path : Path) (content : String) (fs : FileSystem) :
    (runOn (runBodySteps [.write path content] : StateM FileSystem _) fs).2 =
      (runOn (FileAccess.write path content : StateM FileSystem _) fs).2 := rfl

theorem BodyJob.filter_isWrite_steps (j : BodyJob) :
    j.steps.filter BodyStep.isWrite = j.write?.toList := by
  rw [steps, write?]
  cases j.content <;> rfl

/-- Whatever happens in which order, the files are those after the write, if there is one. -/
theorem files_runBodySteps_of_perm {j : BodyJob} {es : List BodyStep} (h : es.Perm j.steps)
    (fs : FileSystem) :
    (runOn (runBodySteps es : StateM FileSystem _) fs).2 =
      (runOn (runBodySteps j.write?.toList : StateM FileSystem _) fs).2 := by
  have hwrites := h.filter BodyStep.isWrite
  rw [j.filter_isWrite_steps] at hwrites
  have hsame : es.filter BodyStep.isWrite = j.write?.toList := by
    cases hwrite : j.write? with
    | none =>
        rw [hwrite] at hwrites
        exact hwrites.eq_nil
    | some w =>
        rw [hwrite] at hwrites
        exact List.perm_singleton.mp hwrites
  rw [files_runBodySteps_filter, hsame]

/-! ## One request -/

namespace Request

variable {bodies : Path} {simulation : String} {r : Request} {b : Body} {content : String}
  {fs : FileSystem}

/-- What is done about the body of a request until all of it is over, if the tasks take some turns
before anybody waits for them. -/
def bodySteps (bodies : Path) (simulation : String) (turns : List Handle) (r : Request) :
    List BodyStep :=
  let played := (bodyWork bodies simulation [r]).play turns
  played.1 ++ played.2.join.1

/-- The warnings about the body of a request, and the files when all work on it is over. -/
def convertBody (bodies : Path) (simulation : String) (turns : List Handle) (r : Request) :
    FileSystem → List Warning × FileSystem :=
  runOn (runBodySteps (r.bodySteps bodies simulation turns) : StateM FileSystem _)

theorem bodyJobs_singleton (bodies : Path) (simulation : String) (r : Request) :
    bodyJobs bodies simulation [r] =
      (r.body.map fun b => ⟨r.name, b.path bodies simulation, b.contentToWrite?⟩).toList := by
  rw [bodyJobs, List.filterMap_cons]
  cases r.body <;> rfl

theorem apart_singleton (here : Location) : Apart here (bodyJobs bodies simulation [r]) := by
  rw [Apart, bodyJobs_singleton]
  cases r.body with
  | none => exact List.nodup_nil
  | some b => exact List.nodup_singleton _

/-- Whatever turns the tasks take, the work on the body is over in the end and the body settled. -/
theorem exists_settling
    (hleads : ∀ b, r.body = some b → (b.path bodies simulation).LeadsIn fs) (turns : List Handle) :
    ∃ t, Settling (bodyJobs bodies simulation [r]) fs.here
        (bodyTrace (r.bodySteps bodies simulation turns) fs) t
        (r.convertBody bodies simulation turns fs).1 (r.convertBody bodies simulation turns fs).2 ∧
      t.pending = [] ∧ ∀ k, t.isOver k := by
  have hjobs : ∀ j ∈ bodyJobs bodies simulation [r], j.path.LeadsIn fs := by
    intro j hj
    obtain ⟨r', hr, hjob⟩ := List.mem_filterMap.mp hj
    obtain rfl := List.mem_singleton.mp hr
    obtain ⟨b, hb, rfl⟩ := Option.map_eq_some_iff.mp hjob
    exact hleads b hb
  have hunderway :
      Underway (bodyJobs bodies simulation [r]) [] (bodyWork bodies simulation [r]) := by
    rw [bodyWork_eq]
    exact underway_bodyJobs _
  have hstart : Settling (bodyJobs bodies simulation [r]) fs.here []
      (bodyWork bodies simulation [r]) [] fs :=
    ⟨rfl, hunderway, hjobs, fun _ _ _ _ hmem => absurd hmem List.not_mem_nil, rfl⟩
  have hapart : Apart fs.here (bodyJobs bodies simulation [r]) := apart_singleton fs.here
  have hplayed := hstart.play hapart turns
  have hjoined := hplayed.join hapart
  have hfinishes := Tracker.finishes_join hplayed.work.sound hplayed.work.awaited
  refine ⟨_, ?_, hfinishes.pending, hfinishes.isOver⟩
  rw [convertBody, bodySteps, runOn_runBodySteps_append, bodyTrace_append]
  exact hjoined

section

variable (hbody : r.body = some b)
include hbody

/-- Nobody is asked for the file if and only if it is there in the end. -/
theorem warnings_eq_nil_iff {performed : List (BodyStep × FileSystem)} {t : Tracker BodyStep}
    {ws : List Warning} (h : BodiesSettled bodies simulation [r] performed ws t fs) :
    ws = [] ↔ (b.path bodies simulation).opensIn fs := by
  have hwarnings : ws.Perm (r.missing? bodies simulation fs).toList := by
    have hperm := h.warnings
    rw [List.filterMap_cons] at hperm
    cases hmissing : r.missing? bodies simulation fs <;> simpa [hmissing] using hperm
  rw [missing?, hbody, Option.bind_some] at hwarnings
  cases hopens : (b.path bodies simulation).opensIn fs with
  | true =>
      rw [hopens] at hwarnings
      exact iff_of_true hwarnings.eq_nil rfl
  | false =>
      rw [hopens] at hwarnings
      refine iff_of_false ?_ Bool.false_ne_true
      rintro rfl
      cases hwarnings.nil_eq

/-- What is left when the work on a body is over: the files as they are after its write, if there is
one, and a warning if its own file is not there. -/
theorem convertBody_outcome (hleads : fs.Leads (b.path bodies simulation)) (turns : List Handle) :
    let result := r.convertBody bodies simulation turns fs
    result.2 = (runOn (runBodySteps (b.contentToWrite?.map
        (.write (b.path bodies simulation))).toList : StateM FileSystem _) fs).2 ∧
      (result.1 = [] ↔ result.2.acceptsWrites (b.path bodies simulation)) := by
  intro result
  have hall : ∀ b', r.body = some b' → (b'.path bodies simulation).LeadsIn fs := by
    intro b' hb'
    cases hbody.symm.trans hb'
    exact FileSystem.leadsIn_iff.mpr hleads
  obtain ⟨t, hsettling, hpending, hover⟩ := exists_settling hall turns
  have hsteps := hsettling.work.perm_of_isOver hover
  rw [bodyJobs_singleton, hbody, Option.map_some, Option.toList_some, List.flatMap_singleton]
    at hsteps
  rw [map_bodyTrace] at hsteps
  exact ⟨files_runBodySteps_of_perm hsteps fs,
    warnings_eq_nil_iff hbody (hsettling.bodiesSettled hpending hover)⟩

/-- A content that is known gets into the file of its body without a warning if and only if it is
not empty, or the file holds it already. For an empty one no file is touched. -/
theorem body_in_place_iff (turns : List Handle) (hcontent : b.content = some content)
    (hwritable : (runOn (FileAccess.write (b.path bodies simulation) content :
      StateM FileSystem _) fs).1 = .ok ()) :
    let result := r.convertBody bodies simulation turns fs
    (result.2.read (b.path bodies simulation) = .ok (.text content) ∧ result.1 = [] ↔
        content ≠ "" ∨ fs.read (b.path bodies simulation) = .ok (.text "")) ∧
      (content = "" → result.2 = fs) := by
  intro result
  obtain ⟨l, hl, -, -⟩ := FileSystem.exists_put_of_write hwritable
  have hleads : fs.Leads (b.path bodies simulation) :=
    FileSystem.leads_of_locate_ne (by simp [hl])
  obtain ⟨hfiles, hwarnings⟩ : result.2 = _ ∧ (result.1 = [] ↔ _) :=
    convertBody_outcome hbody hleads turns
  by_cases hempty : content = ""
  · subst hempty
    have hnone : b.contentToWrite? = none := by
      rw [Body.contentToWrite?, hcontent]
      rfl
    rw [hnone] at hfiles
    have hsame : result.2 = fs := hfiles
    rw [hsame] at hwarnings ⊢
    refine ⟨⟨fun h => .inr h.1, fun h => ?_⟩, fun _ => rfl⟩
    have hread := h.resolve_left (fun hne => hne rfl)
    exact ⟨hread, hwarnings.mpr (FileSystem.acceptsWrites_iff.mpr ⟨_, hread⟩)⟩
  · rw [b.contentToWrite?_eq_some hcontent hempty, Option.map_some, Option.toList_some,
      files_runBodySteps_write] at hfiles
    have haccepts := FileSystem.acceptsWrites_of_write hwritable (.refl (fun _ => False) _)
    obtain ⟨written, hread⟩ := FileSystem.acceptsWrites_iff.mp haccepts
    have hcontents := FileSystem.eq_of_read_write hread
    rw [hcontents] at hread
    rw [hfiles] at hwarnings ⊢
    exact ⟨iff_of_true ⟨hread, hwarnings.mpr haccepts⟩ (.inl hempty), fun h => absurd h hempty⟩

end

/-- A request with a body of its own. -/
def posting (content : String) : Request :=
  ⟨"Ping", "POST", "/x", none, .empty, some ⟨"Ping_stringbody.txt", some content⟩, .none⟩

/-- The file of that body, below the current directory. -/
def postedFile : Location := ["home", "out", "bodies", "Notes", "Ping_stringbody.txt"]

/-- Files with the directory of the bodies and what an earlier run has left there. -/
def leftBehind (content : Option String) : FileSystem :=
  ⟨["home"], (content.map fun c => (postedFile, .file (.text c))).toList ++
    [(["home", "out", "bodies", "Notes"], .directory), (["home", "out", "bodies"], .directory),
      (["home", "out"], .directory)]⟩

/-- The check gets the first turn. -/
theorem body_in_place_posting :
    let result :=
      (posting "ping").convertBody ⟨"out/bodies"⟩ "Notes" [1, 0] (leftBehind (some "old"))
    result.2.read ⟨"out/bodies/Notes/Ping_stringbody.txt"⟩ = .ok (.text "ping") ∧
      result.1 = [] := by
  have hwritable : (runOn (FileAccess.write
      (Body.path ⟨"Ping_stringbody.txt", some "ping"⟩ ⟨"out/bodies"⟩ "Notes") "ping" :
        StateM FileSystem _) (leftBehind (some "old"))).1 = .ok () := by
    decide +kernel
  have hfull : "ping" ≠ "" := by decide
  exact (body_in_place_iff (r := posting "ping") rfl [1, 0] rfl hwritable).1.mpr (.inl hfull)

/-- An empty body: the file of an earlier run stays as it is, and without one the user is asked. -/
theorem empty_body_left_out :
    let write : StateM FileSystem _ :=
      FileAccess.write ⟨"out/bodies/Notes/Ping_stringbody.txt"⟩ ""
    let kept := (posting "").convertBody ⟨"out/bodies"⟩ "Notes" [] (leftBehind (some "old"))
    let asked := (posting "").convertBody ⟨"out/bodies"⟩ "Notes" [] (leftBehind none)
    ((runOn write (leftBehind (some "old"))).1 = .ok () ∧ kept.1 = [] ∧
        kept.2.read ⟨"out/bodies/Notes/Ping_stringbody.txt"⟩ = .ok (.text "old")) ∧
      (runOn write (leftBehind none)).1 = .ok () ∧
        asked.1 = [.missingFile "Ping" "out/bodies/Notes/Ping_stringbody.txt"] ∧
        asked.2.read ⟨"out/bodies/Notes/Ping_stringbody.txt"⟩ = .error .notFound := by
  decide +kernel

end Request

end LoadScenario
