import LoadScenario.Proofs.InputFiles
import LoadScenario.Proofs.RunEnd

/-!
# Converting once more

A conversion that has succeeded leaves everything in the state that it wants: the directories are
there, and each file holds what the conversion writes into it. So the same conversion can be run on
what it has left, in any order of its steps. It succeeds, it tells the same, and no file changes, as
long as no input is one of the files that were written.

That is a matter of a fixed point (`Output.Unmoved`): making a directory that is there changes
nothing, writing a file with what it holds changes nothing, and a body that could not be written
because a directory is in its way cannot be written now either.

That it tells the same takes more than that. The first run may look for a file before a directory on
the way to it has been made, and the second run finds the directory there. So the names with slashes
have to lead to their files from the beginning, and a file whose name does not is missed by the
first run only.
-/

namespace LoadScenario

open Work

namespace FileSystem

variable {fs fs' fs'' : FileSystem} {p : Path} {l : Location}

/-! ## The same files -/

/-- Two file systems in which the same is found everywhere. -/
structure Alike (fs fs' : FileSystem) : Prop where
  here : fs'.here = fs.here
  nodes : ∀ l, fs'.node? l = fs.node? l

theorem Alike.refl (fs : FileSystem) : Alike fs fs := ⟨rfl, fun _ => rfl⟩

theorem Alike.trans (h : Alike fs fs') (h' : Alike fs' fs'') : Alike fs fs'' :=
  ⟨h'.here.trans h.here, fun l => (h'.nodes l).trans (h.nodes l)⟩

theorem Alike.twins (h : Alike fs fs') : Twins (fun _ => False) fs fs' fs fs' :=
  ⟨rfl, h.here, fun l => by rw [h.nodes l], fun _ _ => .inr ⟨rfl, rfl⟩⟩

theorem Alike.isDirectory (h : Alike fs fs') (p : Path) : fs'.isDirectory p = fs.isDirectory p := by
  rw [FileSystem.isDirectory, FileSystem.isDirectory, h.twins.locate p]
  cases fs.locate p with
  | error fault => rfl
  | ok l => simp only [h.nodes]

theorem Alike.read (h : Alike fs fs') (p : Path) : fs'.read p = fs.read p := by
  rw [FileSystem.read, FileSystem.read, h.twins.locate p]
  cases fs.locate p with
  | error fault => rfl
  | ok l => simp only [bind, Except.bind, h.nodes]

theorem alike_put {n : Node} (hl : fs.node? l = some n) : Alike fs (fs.put l n) := by
  refine ⟨rfl, fun l' => ?_⟩
  rw [node?_put]
  split
  next hput => rw [hput.1, hl]
  next => rfl

/-- What can be read at a path can be read again later. -/
def Rereads (fs fs' : FileSystem) (p : Path) : Prop :=
  ∀ text, (runOn (readText p : StateM FileSystem _) fs).1 = .ok text →
    runOn (readText p : StateM FileSystem _) fs' = (.ok text, fs')

theorem Rereads.refl (fs : FileSystem) (p : Path) : Rereads fs fs p := by
  intro text htext
  refine Prod.ext htext ?_
  rfl

/-- Making a directory that is there is a success. -/
theorem makeDirectories_of_isDirectory (h : fs.isDirectory p) :
    runOn (makeDirectories p : StateM FileSystem _) fs = (.ok (), fs) := by
  obtain ⟨l, hl, hnode⟩ := isDirectory_iff.mp h
  obtain ⟨hfull, -, -, -⟩ := locate_eq_ok_iff.mp hl
  have hensured : runOn (ensureDirectory p : StateM FileSystem _) fs = (.ok (), fs) := by
    obtain ⟨l', hl', hvacant, -⟩ | ⟨fault, hfailed⟩ := makeDirectory_cases fs p
    · obtain rfl := Except.ok.inj (hl'.symm.trans hl)
      rw [hnode] at hvacant
      cases hvacant
    · rw [ensureDirectory, runOn_bind, hfailed]
      show ((if fs.isDirectory p then Except.ok () else Except.error fault), fs) = _
      rw [h, if_pos rfl]
  rw [makeDirectories, Path.ancestors, Path.ancestorsUpTo, makeFirst, hfull,
    if_neg Bool.false_ne_true, runOn_bind, hensured, runOn_pure]

/-- Writing what a file holds changes nothing. -/
theorem write_of_read {s : String} (h : fs.read p = .ok (.text s)) :
    ∃ fs', runOn (FileAccess.write p s : StateM FileSystem _) fs = (.ok (), fs') ∧
      Alike fs fs' := by
  obtain ⟨l, hl, hnode⟩ := read_eq_ok_iff.mp h
  refine ⟨fs.put l (.file (.text s)), ?_, alike_put hnode⟩
  show attempt (fun fs => fs.write p (.text s)) fs = _
  rw [attempt, write, hl]
  simp only [bind, Except.bind, hnode]

/-- A write of what is there changes nothing, and neither does one that a directory is in the way
of. -/
theorem alike_write {s : String} (h : ∀ l, fs.locate p = .ok l →
      fs.node? l = some .directory ∨ fs.node? l = some (.file (.text s))) :
    Alike fs (runOn (FileAccess.write p s : StateM FileSystem _) fs).2 := by
  obtain ⟨hsame, -⟩ | ⟨l, hl, hvacant, hput⟩ := write_cases fs p s
  · rw [hsame]
    exact .refl fs
  · rw [hput]
    exact alike_put ((h l hl).resolve_left hvacant)

end FileSystem

open FileSystem

/-! ## An output that has nothing to change -/

/-- A file that holds what is to be written, in a directory that is there. -/
structure OutputFile.Steady (f : OutputFile) (fs : FileSystem) : Prop where
  directory : ∀ dir, f.directory? = some dir → fs.isDirectory dir
  content : fs.read f.path = .ok (.text f.content)

namespace OutputFile

variable {f g : OutputFile} {fs fs' : FileSystem}

theorem Steady.congr (h : f.Steady fs) (hpath : g.path = f.path)
    (hcontent : g.content = f.content) :
    g.Steady fs := by
  refine ⟨?_, by rw [hpath, hcontent, h.content]⟩
  rw [directory?, hpath]
  exact h.directory

theorem Steady.alike (h : f.Steady fs) (halike : fs.Alike fs') : f.Steady fs' :=
  ⟨fun dir hdir => by rw [halike.isDirectory, h.directory dir hdir],
    by rw [halike.read, h.content]⟩

theorem content_advance {W : Type} [FileAccess (StateM W)] (f : OutputFile) (w : W) :
    (runOn (f.advance : StateM W _) w).1.content = f.content := by
  have hstep := f.advances w
  generalize runOn (f.advance : StateM W _) w = advanced at *
  obtain ⟨f', w'⟩ := advanced
  cases hstep <;> rfl

theorem Steady.advance (h : f.Steady fs) (hok : f.failure? = none) :
    (runOn (f.advance : StateM FileSystem _) fs).1.failure? = none ∧
      fs.Alike (runOn (f.advance : StateM FileSystem _) fs).2 := by
  have hstep := f.advances fs
  generalize runOn (f.advance : StateM FileSystem _) fs = advanced at *
  obtain ⟨f', fs'⟩ := advanced
  cases hstep with
  | bare => exact ⟨rfl, .refl _⟩
  | @made dir _ _ hdirectory hrun =>
      rw [makeDirectories_of_isDirectory (h.directory dir hdirectory)] at hrun
      cases hrun
      exact ⟨rfl, .refl _⟩
  | @unmade dir _ _ _ hdirectory hrun =>
      rw [makeDirectories_of_isDirectory (h.directory dir hdirectory)] at hrun
      cases hrun
  | written _ hrun =>
      obtain ⟨fs₁, hwrite, halike⟩ := write_of_read h.content
      rw [hwrite] at hrun
      cases hrun
      exact ⟨rfl, halike⟩
  | unwritten _ hrun =>
      obtain ⟨fs₁, hwrite, -⟩ := write_of_read h.content
      rw [hwrite] at hrun
      cases hrun
  | ended => exact ⟨hok, .refl _⟩

end OutputFile

namespace Output

/-- An output on its way that has changed nothing: each write that is left has been done before, or
a directory is in the way of it. -/
structure Unmoved (start : FileSystem) (o : Output) (fs : FileSystem) : Prop where
  alike : start.Alike fs
  scenario : o.scenario.Steady start ∧ o.scenario.failure? = none
  feeder : ∀ f, o.feeder = some f → f.Steady start ∧ f.failure? = none
  bodies : ∀ path content, .write path content ∈ o.bodies.effects → ∀ l,
    start.locate path = .ok l →
      start.node? l = some .directory ∨ start.node? l = some (.file (.text content))
  sound : o.bodies.Sound
  awaited : o.bodies.Awaited

variable {start : FileSystem}

theorem keeps_unmoved_advanceScenario : Keeps (Unmoved start) advanceScenario := by
  intro o fs h
  obtain ⟨hok, halike⟩ := (h.scenario.1.alike h.alike).advance h.scenario.2
  refine ⟨h.alike.trans halike, ⟨?_, hok⟩, h.feeder, h.bodies, h.sound, h.awaited⟩
  exact h.scenario.1.congr (OutputFile.path_advance _ fs) (OutputFile.content_advance _ fs)

theorem keeps_unmoved_advanceFeeder : Keeps (Unmoved start) advanceFeeder := by
  intro o fs h
  rw [advanceFeeder]
  split
  · exact h
  · next f hf =>
      obtain ⟨hsteady, hnone⟩ := h.feeder f hf
      obtain ⟨hok, halike⟩ := (hsteady.alike h.alike).advance hnone
      refine ⟨h.alike.trans halike, h.scenario, fun g hg => ?_, h.bodies, h.sound, h.awaited⟩
      rw [runOn_bind, runOn_pure] at hg
      obtain rfl := Option.some.inj hg
      exact ⟨hsteady.congr (OutputFile.path_advance f fs) (OutputFile.content_advance f fs), hok⟩

/-- Steps on bodies that are left change nothing. -/
theorem Unmoved.runBodySteps {o : Output} {fs : FileSystem} (h : o.Unmoved start fs)
    {es : List BodyStep} (hes : ∀ e ∈ es, e ∈ o.bodies.effects) :
    start.Alike (runOn (LoadScenario.runBodySteps es : StateM FileSystem _) fs).2 := by
  refine runBodySteps_keeps_files (fun e he fs' halike => ?_) h.alike
  cases e with
  | check request path => exact halike
  | write path content =>
      refine halike.trans (alike_write fun l hl => ?_)
      rw [halike.twins.locate] at hl
      rw [halike.nodes]
      exact h.bodies path content (hes _ he) l hl

theorem keeps_unmoved_advanceBody (k : Handle) : Keeps (Unmoved start) (advanceBody · k) := by
  intro o fs h
  have hperm := o.bodies.perm_advance k
  refine ⟨h.runBodySteps fun e he => hperm.subset (List.mem_append_left _ he), h.scenario, h.feeder,
    fun path content hw => h.bodies path content (hperm.subset (List.mem_append_right _ hw)),
    h.sound.advance k, h.awaited.play [k]⟩

/-- A run that has nothing to change succeeds and changes nothing. -/
theorem Unmoved.run {o : Output} (h : o.Unmoved start start) (schedule : Schedule) :
    (runOn (o.run schedule) start).1.failure? = none ∧
      start.Alike (runOn (o.run schedule) start).2 := by
  have hplayed := Keeps.play keeps_unmoved_advanceScenario keeps_unmoved_advanceFeeder
    keeps_unmoved_advanceBody schedule.givesUp (schedule.turns ++ fileTurns) o start h
  rw [Output.run, runOn_bind]
  generalize runOn (o.play schedule.givesUp (schedule.turns ++ fileTurns)) start = played at *
  refine ⟨?_, hplayed.runBodySteps (Tracker.perm_join hplayed.sound hplayed.awaited).subset⟩
  show played.1.scenario.failure?.or (played.1.feeder.bind OutputFile.failure?) = none
  rw [hplayed.scenario.2, Option.none_or]
  refine Option.bind_eq_none_iff.mpr fun f hf => ?_
  exact (hplayed.feeder f hf).2

end Output

/-! ## What a run leaves -/

namespace Simulation

variable {c : Collection} {rs : List Request} {layout : Layout} {name : String} {feeder : Feeder}
  {before fs : FileSystem}

end Simulation

namespace Conversion

def detoured : List Request := [⟨"Upload", "post", "/d", none,
  .ofList [("Content-Disposition", "filename=../../s/../p.png")],
  some ⟨"../../s/../p.png", none⟩, .none⟩]

/-- What is written by the conversion. -/
def detour (schedule : Schedule) (fs : FileSystem) :=
  runOn (Simulation.writeAll schedule Simulation.nearLayout none "Shop" tokenFeeder detoured :
    StateM FileSystem _) fs

end Conversion

end LoadScenario
