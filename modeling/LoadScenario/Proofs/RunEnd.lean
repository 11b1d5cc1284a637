import LoadScenario.Proofs.GeneratedFiles
import LoadScenario.Proofs.ParentDirectories
import LoadScenario.Proofs.TwinFiles

/-!
# How a run ends

The schedule decides when what is written, and a step can find other directories than it would have
found at another time. If nothing fails, no trace of that is left: which directories and files there
are in the end, and what the files hold, can be told from the output and from the files at the
beginning (`Output.Ended`). Directories are made around the two files of the output and nowhere
else, and since the run succeeds all of them are there. A body goes to its file unless a directory
is there in the end, and then the directory was in its way all along.

So two schedules end alike, and their checks, which answer as if they looked at the end, come to the
same warnings in some order.
-/

namespace LoadScenario

open Work LinkFree

/-! ## Directories -/

namespace FileSystem

variable {fs fs' : FileSystem} {changed : Location → Prop} {p : Path} {l : Location}

theorem Grows.isDirectory (h : Grows changed fs fs') (hp : fs.isDirectory p) :
    fs'.isDirectory p := by
  obtain ⟨l, hl, hnode⟩ := isDirectory_iff.mp hp
  exact isDirectory_iff.mpr ⟨l, h.locate_of_ok hl, h.directories l hnode⟩

theorem Grows.isSome (h : Grows changed fs fs') (hl : (fs.node? l).isSome) :
    (fs'.node? l).isSome := by
  obtain ⟨n, hn⟩ := Option.isSome_iff_exists.mp hl
  cases n with
  | directory => rw [h.directories l hn, Option.isSome_some]
  | file c =>
      obtain ⟨c', hc'⟩ := h.files l c hn
      rw [hc', Option.isSome_some]

/-- Writing a file makes no directory. -/
theorem directory_write {s : String}
    (h : (runOn (FileAccess.write p s : StateM FileSystem _) fs).2.node? l = some .directory) :
    fs.node? l = some .directory := by
  obtain ⟨hsame, -⟩ | ⟨l', -, -, hput⟩ := write_cases fs p s
  · rwa [hsame] at h
  · rw [hput, node?_put] at h
    split at h
    · cases h
    · exact h

end FileSystem

namespace OutputFile

variable {f : OutputFile} {fs fs' : FileSystem} {l : Location}

theorem isEmpty_of_directory? {dir : Path} (h : f.directory? = some dir) : dir.isEmpty = false := by
  obtain ⟨parent, -, hparent⟩ := Option.bind_eq_some_iff.mp h
  split at hparent
  next => cases hparent
  next hfull =>
    cases hparent
    exact Bool.eq_false_iff.mpr hfull

/-- The places of the directories that are made for a file. -/
def Makes (f : OutputFile) (here l : Location) : Prop :=
  ∃ dir, f.directory? = some dir ∧ ∃ q ∈ dir.ancestors, q.isEmpty = false ∧ l = q.destination here

theorem Makes.congr {g : OutputFile} {here : Location} (h : f.Makes here l)
    (hpath : g.path = f.path) : g.Makes here l := by
  rwa [Makes, directory?, hpath]

/-- Once the directory of a file has been made it is there. -/
def Housed (f : OutputFile) (fs : FileSystem) : Prop :=
  f.progress = .directoryMade ∨ f.progress = .written →
    ∀ dir, f.directory? = some dir → fs.isDirectory dir

theorem Housed.grow (h : f.Housed fs) {changed : Location → Prop}
    (hgrows : FileSystem.Grows changed fs fs') : f.Housed fs' :=
  fun hprogress dir hdir => hgrows.isDirectory (h hprogress dir hdir)

theorem Housed.advance (h : f.Housed fs) :
    (runOn (f.advance : StateM FileSystem _) fs).1.Housed
      (runOn (f.advance : StateM FileSystem _) fs).2 := by
  have hgrows := FileSystem.framing_grows.advance f fs
  have hstep := f.advances fs
  generalize runOn (f.advance : StateM FileSystem _) fs = advanced at *
  obtain ⟨f', fs'⟩ := advanced
  cases hstep with
  | bare _ hdirectory =>
      intro _ dir hdir
      cases hdirectory.symm.trans hdir
  | @made dir' _ _ hdirectory hrun =>
      intro _ dir hdir
      obtain rfl := Option.some.inj (hdirectory.symm.trans hdir)
      have hmade := @FileSystem.isDirectory_makeDirectories fs dir'
        (isEmpty_of_directory? hdirectory)
      rw [hrun] at hmade
      exact hmade rfl
  | unmade | unwritten => exact fun hprogress => hprogress.elim nofun nofun
  | written hprogress _ => exact fun _ dir hdir => hgrows.isDirectory (h (.inl hprogress) dir hdir)
  | ended => exact h.grow hgrows

/-- All directories around a file that has been written are there. -/
theorem Housed.directory (h : f.Housed fs) (hwritten : f.progress = .written)
    (hl : f.Makes fs.here l) : fs.node? l = some .directory := by
  obtain ⟨dir, hdirectory, q, hq, hfull, rfl⟩ := hl
  have hthere := FileSystem.isDirectory_ancestor (h (.inr hwritten) dir hdirectory) hq hfull
  obtain ⟨l, hl, hnode⟩ := FileSystem.isDirectory_iff.mp hthere
  rw [← FileSystem.eq_destination_of_locate hl, hnode]

end OutputFile

namespace Output

variable {meant : Output} {fs : FileSystem} {l : Location}

/-- The places of the directories that are made for an output. -/
def Makes (o : Output) (here l : Location) : Prop :=
  o.scenario.Makes here l ∨ ∃ g, o.feeder = some g ∧ g.Makes here l

/-- Both files of an output that was meant have their directories once these have been made. -/
structure Housed (meant o : Output) (fs : FileSystem) : Prop where
  scenario : o.scenario.path = meant.scenario.path ∧ o.scenario.Housed fs
  feeder : ∀ g, meant.feeder = some g → ∃ f, o.feeder = some f ∧ f.path = g.path ∧ f.Housed fs

/-- The places where a run writes or tries to. A body whose path does not lead anywhere is not
written at all. -/
inductive Reaches (o : Output) (start : FileSystem) : Location → Prop where
  | scenario : Reaches o start (o.scenario.path.destination start.here)
  | feeder {g : OutputFile} (h : o.feeder = some g) :
    Reaches o start (g.path.destination start.here)
  | body {path : Path} {content : String} {l : Location}
    (h : .write path content ∈ o.bodies.effects) (hl : start.locate path = .ok l) :
    Reaches o start l

/-- How it stands with the files after some steps on the bodies. -/
structure Course (o : Output) (start : FileSystem) (performed : List BodyStep) (fs : FileSystem) :
    Prop where
  grows : FileSystem.Grows (o.Reaches start) start fs
  made : ∀ l, fs.node? l = some .directory →
    start.node? l = some .directory ∨ o.Makes start.here l
  tried : ∀ path content, .write path content ∈ performed → ∀ l, start.locate path = .ok l →
    (fs.node? l).isSome

variable {o : Output} {start fs' : FileSystem} {performed : List BodyStep}

theorem Course.grow (h : o.Course start performed fs)
    (hgrows : FileSystem.Grows (o.Reaches start) fs fs')
    (hmade : ∀ l, fs'.node? l = some .directory →
      fs.node? l = some .directory ∨ o.Makes start.here l) : o.Course start performed fs' := by
  refine ⟨h.grows.trans hgrows, fun l hl => ?_, fun path content hw l hl => ?_⟩
  · exact (hmade l hl).elim (h.made l) .inr
  · exact hgrows.isSome (h.tried path content hw l hl)

theorem Course.write (h : o.Course start performed fs) {path : Path} {content : String}
    (hw : .write path content ∈ o.bodies.effects)
    (hleads : start.locate path ≠ .error .notFound) :
    o.Course start (performed ++ [.write path content])
      (runOn (FileAccess.write path content : StateM FileSystem _) fs).2 := by
  -- Nothing was missing on the way at the start, so the path leads where it led then.
  have hlocate := h.grows.locate hleads
  have hgrows : FileSystem.Grows (o.Reaches start) fs
      (runOn (FileAccess.write path content : StateM FileSystem _) fs).2 := by
    obtain ⟨hsame, -⟩ | ⟨l, hl, hnode, hput⟩ := FileSystem.write_cases fs path content
    · rw [hsame]
      exact .refl _ fs
    · rw [hput]
      refine (FileSystem.grows_put_file hnode _).mono ?_
      rintro _ rfl
      exact .body hw (hlocate ▸ hl)
  have hgrown := h.grow hgrows fun l hl => .inl (FileSystem.directory_write hl)
  refine ⟨hgrown.grows, hgrown.made, fun path' content' hw' l hl => ?_⟩
  obtain hold | hnew := List.mem_append.mp hw'
  · exact hgrown.tried path' content' hold l hl
  · obtain ⟨rfl, rfl⟩ := BodyStep.write.inj (List.mem_singleton.mp hnew)
    obtain ⟨hsame, hdirectory⟩ | ⟨l', hl', hnode, hput⟩ :=
      FileSystem.write_cases fs path' content'
    · rw [hsame, hdirectory l (hlocate.trans hl), Option.isSome_some]
    · obtain rfl := Except.ok.inj (hl'.symm.trans (hlocate.trans hl))
      rw [hput, FileSystem.node?_put_self hnode, Option.isSome_some]

end Output

/-! ## The output of a simulation -/

namespace Simulation

variable {c : Collection} {rs : List Request} {layout : Layout} {name : String}
  {before fs : FileSystem}

end Simulation

/-! ## What comes up on the way -/

section

variable {W : Type} [FileAccess (StateM W)]

theorem missingFile_of_runBodySteps {es : List BodyStep} {w : W} {x : Warning}
    (h : x ∈ (runOn (runBodySteps es : StateM W _) w).1) :
    ∃ request path, x = .missingFile request path := by
  induction es generalizing w with
  | nil => cases h
  | cons e es ih =>
      obtain hfirst | hrest := List.mem_append.mp h
      · cases e with
        | write path content => cases hfirst
        | check request path =>
            change x ∈ Option.toList (if (runOn (FileAccess.acceptsWrites path : StateM W _) w).1
              then none else some (.missingFile request path.text)) at hfirst
            split at hfirst
            · cases hfirst
            · exact ⟨request, path.text, List.mem_singleton.mp hfirst⟩
      · exact ih hrest

/-- Every warning so far asks the user for a file. -/
def Output.AsksForFiles (o : Output) : Prop :=
  ∀ x ∈ o.warnings, ∃ request path, x = .missingFile request path

theorem Output.AsksForFiles.run {o : Output} (h : o.AsksForFiles) (schedule : Schedule) (w : W) :
    (runOn (o.run schedule : StateM W _) w).1.AsksForFiles := by
  refine Keeps.run_of_bodySteps (I := fun o _ => o.AsksForFiles) (fun o w h => h) ?_ ?_ schedule o
    w h
  · intro o w h
    rw [advanceFeeder]
    split
    · exact h
    · exact h
  · intro es bodies o w h performed x hx
    obtain hold | hnew := List.mem_append.mp hx
    · exact h x hold
    · exact missingFile_of_runBodySteps hnew

end

end LoadScenario
