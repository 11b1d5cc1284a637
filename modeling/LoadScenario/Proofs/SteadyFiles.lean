import LoadScenario.Files.Disk
import LoadScenario.Proofs.LinkFree

/-!
# Files that nobody else touches

More is known of files than that there are no links. A write that succeeds has left its text in the
file (`StoresText`). And a path goes on meaning what it means while other files are written
(`SteadyFiles`): whether it can be opened for writing stays the same.

There is one exception to that. If something on the way of a path is missing, the path leads
nowhere, whatever is at its destination, and it comes to lead there when the missing directory is
made. So the paths that are spoken of are those that are not found only if nothing is there
(`Path.LeadsIn`). A name in a directory that has been made is always such a path.

Nothing is said of a write that fails. It can be refused and leave everything as it was, and it can
break off and leave the file with some other content. The files as a value are of the first kind,
and those that can be full are of the second.
-/

namespace LoadScenario

open LinkFree

/-- Files without links that keep what is written. -/
class StoresText (W : Type) [FileAccess (StateM W)] extends LinkFree W where
  file?_write : ∀ p s w, (runOn (FileAccess.write p s : StateM W _) w).1 = .ok () →
    toFileView.file? (runOn (FileAccess.write p s : StateM W _) w).2
      (p.destination (toFileView.here w)) = some (.text s)

section

variable {W : Type} [FileAccess (StateM W)]

/-- Whether there is a file at a path that can be opened for writing. -/
def Path.opensIn (p : Path) (w : W) : Bool := (runOn (FileAccess.acceptsWrites p : StateM W _) w).1

variable [LinkFree W]

/-- The path leads to the file at its destination, if there is one: that it is not found means that
nothing is there. -/
def Path.LeadsIn (p : Path) (w : W) : Prop :=
  (runOn (FileAccess.read p : StateM W _) w).1 = .error .notFound →
    toFileView.file? w (p.destination (toFileView.here w)) = none

/-- Files are created or changed at certain locations only, and the paths of the others go on
leading to them and being open for writing or not. -/
structure Undisturbed (changed : Location → Prop) (w w' : W) : Prop where
  spares : toFileView.Spares changed w w'
  leads : ∀ p : Path, ¬ changed (p.destination (toFileView.here w)) → p.LeadsIn w → p.LeadsIn w'
  opens : ∀ p : Path, ¬ changed (p.destination (toFileView.here w)) → p.LeadsIn w →
    p.opensIn w' = p.opensIn w

namespace Undisturbed

variable {changed changed' : Location → Prop} {w w' w'' : W}

theorem refl (changed : Location → Prop) (w : W) : Undisturbed changed w w :=
  ⟨.refl _ _, fun _ _ h => h, fun _ _ _ => rfl⟩

theorem trans (h : Undisturbed changed w w') (h' : Undisturbed changed w' w'') :
    Undisturbed changed w w'' := by
  have hthere : ∀ p : Path, ¬ changed (p.destination (toFileView.here w)) →
      ¬ changed (p.destination (toFileView.here w')) := by
    intro p hp
    rwa [h.spares.here]
  refine ⟨h.spares.trans h'.spares, fun p hp hleads => ?_, fun p hp hleads => ?_⟩
  · exact h'.leads p (hthere p hp) (h.leads p hp hleads)
  · rw [h'.opens p (hthere p hp) (h.leads p hp hleads), h.opens p hp hleads]

theorem mono (h : Undisturbed changed w w') (hle : ∀ l, changed l → changed' l) :
    Undisturbed changed' w w' :=
  ⟨h.spares.mono hle, fun p hp => h.leads p fun hc => hp (hle _ hc),
    fun p hp => h.opens p fun hc => hp (hle _ hc)⟩

end Undisturbed

end

/-- Files whose paths keep their meaning while others are written. -/
class SteadyFiles (W : Type) [FileAccess (StateM W)] extends StoresText W where
  undisturbed_read : ∀ p (w : W), Undisturbed (fun _ => False) w
    (runOn (FileAccess.read p : StateM W _) w).2
  undisturbed_write : ∀ p s (w : W), Undisturbed (· = p.destination (toFileView.here w)) w
    (runOn (FileAccess.write p s : StateM W _) w).2
  undisturbed_makeDirectory : ∀ p (w : W), Undisturbed (fun _ => False) w
    (runOn (FileAccess.makeDirectory p : StateM W _) w).2
  undisturbed_isDirectory : ∀ p (w : W), Undisturbed (fun _ => False) w
    (runOn (FileAccess.isDirectory p : StateM W _) w).2
  undisturbed_acceptsWrites : ∀ p (w : W), Undisturbed (fun _ => False) w
    (runOn (FileAccess.acceptsWrites p : StateM W _) w).2
  leads_write : ∀ (p : Path) s (w : W), p.LeadsIn w →
    p.LeadsIn (runOn (FileAccess.write p s : StateM W _) w).2
  leads_join : ∀ (dir : Path) name (w : W), '/' ∉ name.toList →
    (runOn (makeDirectories dir : StateM W _) w).1 = .ok () →
      (dir.join name).LeadsIn (runOn (makeDirectories dir : StateM W _) w).2

theorem framing_undisturbed {W : Type} [FileAccess (StateM W)] [SteadyFiles W] :
    Framing (W := W) toFileView.here Undisturbed where
  refl := .refl
  trans := .trans
  mono := .mono
  read := SteadyFiles.undisturbed_read
  write := SteadyFiles.undisturbed_write
  makeDirectory := SteadyFiles.undisturbed_makeDirectory
  isDirectory := SteadyFiles.undisturbed_isDirectory
  acceptsWrites := SteadyFiles.undisturbed_acceptsWrites

/-! ## Files as a value -/

namespace FileSystem

theorem toFileView_file? (fs : FileSystem) (l : Location) :
    toFileView.file? fs l = fs.file? l := rfl

theorem toFileView_here (fs : FileSystem) : toFileView.here fs = fs.here := rfl

theorem file?_eq_none_iff {fs : FileSystem} {l : Location} :
    fs.file? l = none ↔ ∀ c, fs.node? l ≠ some (.file c) := by
  rw [Option.eq_none_iff_forall_ne_some]
  simp only [ne_eq, file?_eq_some_iff]

instance : StoresText FileSystem where
  file?_write p s fs h := by
    obtain ⟨l, hl, hnode, hput⟩ := FileSystem.exists_put_of_write h
    show FileSystem.file? _ (p.destination fs.here) = _
    rw [hput, ← FileSystem.eq_destination_of_locate hl, FileSystem.file?_eq_some_iff]
    exact FileSystem.node?_put_self hnode _

theorem leadsIn_iff {fs : FileSystem} {p : Path} : p.LeadsIn fs ↔ fs.Leads p := by
  show (fs.read p = .error .notFound → fs.file? (p.destination fs.here) = none) ↔ _
  rw [Leads, file?_eq_none_iff]
  refine ⟨fun h hmissing => h ?_, fun h hmissing c hfile => ?_⟩
  · rw [read, hmissing]
    rfl
  · cases hlocate : fs.locate p with
    | error fault =>
        rw [read, hlocate] at hmissing
        obtain rfl : fault = .notFound := Except.error.inj hmissing
        exact h hlocate c hfile
    | ok l =>
        rw [← eq_destination_of_locate hlocate] at hfile
        rw [read_eq_ok_iff.mpr ⟨l, hlocate, hfile⟩] at hmissing
        cases hmissing

theorem Grows.undisturbed {changed : Location → Prop} {fs fs' : FileSystem}
    (h : Grows changed fs fs') : Undisturbed changed fs fs' where
  spares := h.spares
  leads _ hp hleads := leadsIn_iff.mpr (h.leads hp (leadsIn_iff.mp hleads))
  opens _ hp hleads := h.acceptsWrites_eq hp (leadsIn_iff.mp hleads)

instance : SteadyFiles FileSystem where
  undisturbed_read _ _ := .refl _ _
  undisturbed_write p s fs := (grows_write fs p s).undisturbed
  undisturbed_makeDirectory p fs := (grows_makeDirectory fs p).undisturbed
  undisturbed_isDirectory _ _ := .refl _ _
  undisturbed_acceptsWrites _ _ := .refl _ _
  leads_write _ s _ hleads := leadsIn_iff.mpr (leads_write (leadsIn_iff.mp hleads) s)
  leads_join _ _ _ hname hmade := leadsIn_iff.mpr (leads_join_makeDirectories hmade hname)

end FileSystem

/-! ## Files that can be full -/

namespace Disk

variable (d : Disk) (p : Path) (s : String)

theorem runOn_write_cases :
    (∃ fault, runOn (FileAccess.write p s : StateM Disk _) d = (.error fault, d)) ∨
      ∃ l, d.files.locate p = .ok l ∧ d.files.node? l ≠ some .directory ∧
        runOn (FileAccess.write p s : StateM Disk _) d =
          (if d.hasRoom p s then .ok () else .error full,
            { d with files := d.files.put l (.file (d.stored p s)) }) := by
  show (∃ fault, write p s d = _) ∨ ∃ l, _ ∧ _ ∧ write p s d = _
  rw [write]
  cases hwrite : d.files.write p (d.stored p s) with
  | error fault => exact .inl ⟨fault, rfl⟩
  | ok files =>
      obtain ⟨l, hl, hnode, rfl⟩ := FileSystem.write_eq_ok_iff.mp hwrite
      exact .inr ⟨l, hl, hnode, rfl⟩

theorem grows_write : FileSystem.Grows (· = p.destination d.files.here) d.files
    (runOn (FileAccess.write p s : StateM Disk _) d).2.files := by
  obtain ⟨fault, hrun⟩ | ⟨l, hl, hnode, hrun⟩ := d.runOn_write_cases p s
  · rw [hrun]
    exact .refl _ _
  · rw [hrun, ← FileSystem.eq_destination_of_locate hl]
    exact FileSystem.grows_put_file hnode _

/-- Making directories is what it is without a limit. -/
theorem runOn_makeDirectory : runOn (FileAccess.makeDirectory p : StateM Disk _) d =
    let made := runOn (FileAccess.makeDirectory p : StateM FileSystem _) d.files
    (made.1, { d with files := made.2 }) := by
  show makeDirectory p d = _
  change _ = ((FileSystem.attempt (fun fs => fs.makeDirectory p) d.files).1,
    { d with files := (FileSystem.attempt (fun fs => fs.makeDirectory p) d.files).2 })
  rw [makeDirectory, FileSystem.attempt]
  cases d.files.makeDirectory p <;> rfl

theorem runOn_ensureDirectory : runOn (ensureDirectory p : StateM Disk _) d =
    let made := runOn (ensureDirectory p : StateM FileSystem _) d.files
    (made.1, { d with files := made.2 }) := by
  rw [ensureDirectory, ensureDirectory, runOn_bind, runOn_bind, runOn_makeDirectory]
  rcases runOn (FileAccess.makeDirectory p : StateM FileSystem _) d.files with ⟨_ | _, _⟩ <;> rfl

theorem runOn_makeFirst (ps : List Path) (d : Disk) :
    runOn (makeFirst ps : StateM Disk _) d =
      let made := runOn (makeFirst ps : StateM FileSystem _) d.files
      (made.1, { d with files := made.2 }) := by
  induction ps generalizing d with
  | nil => rfl
  | cons p outer ih =>
      rw [makeFirst, makeFirst]
      split
      · rfl
      · rw [runOn_bind, runOn_bind, runOn_ensureDirectory]
        rcases runOn (ensureDirectory p : StateM FileSystem _) d.files with ⟨fault | _, files⟩
        · cases fault with
          | notFound =>
              simp only [runOn_bind, ih]
              rcases runOn (makeFirst outer : StateM FileSystem _) files with ⟨_ | _, files'⟩
              · rfl
              · exact runOn_ensureDirectory _ p
          | _ => rfl
        · rfl

theorem runOn_makeDirectories (dir : Path) (d : Disk) :
    runOn (makeDirectories dir : StateM Disk _) d =
      let made := runOn (makeDirectories dir : StateM FileSystem _) d.files
      (made.1, { d with files := made.2 }) :=
  runOn_makeFirst dir.ancestors d

variable {d p s}

instance : LinkFree Disk where
  here d := d.files.here
  file? d := d.files.file?
  spares_read _ _ := .refl _ _
  spares_write p s d := ⟨(d.grows_write p s).here, (d.grows_write p s).spares.files⟩
  spares_makeDirectory p d := by
    have hspares := (FileSystem.grows_makeDirectory d.files p).spares
    rw [runOn_makeDirectory]
    exact ⟨hspares.here, hspares.files⟩
  spares_isDirectory _ _ := .refl _ _
  spares_acceptsWrites _ _ := .refl _ _

theorem undisturbed {changed : Location → Prop} {d d' : Disk}
    (h : FileSystem.Grows changed d.files d'.files) : Undisturbed changed d d' where
  spares := ⟨h.here, h.spares.files⟩
  leads := h.undisturbed.leads
  opens := h.undisturbed.opens

/-- A write that succeeds has had room for all of its text. -/
instance : StoresText Disk where
  file?_write p s d h := by
    obtain ⟨fault, hrun⟩ | ⟨l, hl, hnode, hrun⟩ := d.runOn_write_cases p s
    · rw [hrun] at h
      cases h
    · rw [hrun] at h ⊢
      show FileSystem.file? _ (p.destination d.files.here) = _
      rw [← FileSystem.eq_destination_of_locate hl, FileSystem.file?_eq_some_iff,
        FileSystem.node?_put_self hnode, stored]
      split at h
      next hroom => rw [if_pos hroom]
      next => cases h

instance : SteadyFiles Disk where
  undisturbed_read _ _ := .refl _ _
  undisturbed_write p s d := undisturbed (d.grows_write p s)
  undisturbed_makeDirectory p d := by
    rw [runOn_makeDirectory]
    exact undisturbed (FileSystem.grows_makeDirectory d.files p)
  undisturbed_isDirectory _ _ := .refl _ _
  undisturbed_acceptsWrites _ _ := .refl _ _
  leads_write p s d hleads := by
    obtain ⟨fault, hrun⟩ | ⟨l, hl, hnode, hrun⟩ := d.runOn_write_cases p s
    · rw [hrun]
      exact hleads
    · -- The file is found where it has been written, whatever of its text is there.
      have hgrows := d.grows_write p s
      have hthere := hgrows.locate_of_ok hl
      rw [hrun] at hthere ⊢
      have hleads' : FileSystem.Leads _ p :=
        FileSystem.leads_of_locate_ne (by rw [hthere]; exact nofun)
      exact FileSystem.leadsIn_iff.mpr hleads'
  leads_join dir name d hname hmade := by
    rw [runOn_makeDirectories] at hmade ⊢
    exact SteadyFiles.leads_join dir name d.files hname hmade

end Disk

end LoadScenario
