import LoadScenario.Proofs.MadeDirectory

/-!
# Files without links

What a conversion writes is asked here of any files at all, as long as there are no links among
them. Without links a path can only be that of the file where its parts lead, so whatever writing
comes to, whether it succeeds, is refused or breaks off halfway, no other file is touched. That is
all that `LinkFree` says; it does not say when writing succeeds. Making a directory, reading and
looking touch no file.

`Spares` is what every operation then does to the files, and what everything that is put together
from operations does.
-/

namespace LoadScenario

/-- The way to look at files: the directory in which relative paths start, and what the file at a
location holds. -/
structure FileView (W : Type) where
  here : W → Location
  file? : W → Location → Option Content

/-- Files are created or changed at certain locations only. -/
structure FileView.Spares {W : Type} (v : FileView W) (changed : Location → Prop) (w w' : W) :
    Prop where
  here : v.here w' = v.here w
  files : ∀ l, ¬ changed l → v.file? w' l = v.file? w l

/-- Files among which there are no links. -/
class LinkFree (W : Type) [FileAccess (StateM W)] extends FileView W where
  spares_read : ∀ p w, toFileView.Spares (fun _ => False) w
    (runOn (FileAccess.read p : StateM W _) w).2
  spares_write : ∀ p s w, toFileView.Spares (· = p.destination (toFileView.here w)) w
    (runOn (FileAccess.write p s : StateM W _) w).2
  spares_makeDirectory : ∀ p w, toFileView.Spares (fun _ => False) w
    (runOn (FileAccess.makeDirectory p : StateM W _) w).2
  spares_isDirectory : ∀ p w, toFileView.Spares (fun _ => False) w
    (runOn (FileAccess.isDirectory p : StateM W _) w).2
  spares_acceptsWrites : ∀ p w, toFileView.Spares (fun _ => False) w
    (runOn (FileAccess.acceptsWrites p : StateM W _) w).2

namespace FileView.Spares

variable {W : Type} {v : FileView W} {changed changed' : Location → Prop} {w w' w'' : W}

theorem refl (changed : Location → Prop) (w : W) : v.Spares changed w w := ⟨rfl, fun _ _ => rfl⟩

theorem trans (h : v.Spares changed w w') (h' : v.Spares changed w' w'') :
    v.Spares changed w w'' where
  here := h'.here.trans h.here
  files l hl := (h'.files l hl).trans (h.files l hl)

theorem mono (h : v.Spares changed w w') (hle : ∀ l, changed l → changed' l) :
    v.Spares changed' w w' :=
  ⟨h.here, fun l hl => h.files l fun hc => hl (hle l hc)⟩

/-- What touches no file is no matter wherever files may be touched. -/
theorem weaken (h : v.Spares (fun _ => False) w w') : v.Spares changed w w' :=
  h.mono fun _ hl => hl.elim

end FileView.Spares

theorem framing_spares {W : Type} [FileAccess (StateM W)] [LinkFree W] :
    Framing (W := W) LinkFree.toFileView.here LinkFree.toFileView.Spares where
  refl := .refl
  trans := .trans
  mono := .mono
  read := LinkFree.spares_read
  write := LinkFree.spares_write
  makeDirectory := LinkFree.spares_makeDirectory
  isDirectory := LinkFree.spares_isDirectory
  acceptsWrites := LinkFree.spares_acceptsWrites

/-! ## Files as a value -/

namespace FileSystem

/-- What the file at a location holds. -/
def file? (fs : FileSystem) (l : Location) : Option Content :=
  match fs.node? l with
  | some (.file c) => some c
  | _ => none

theorem file?_eq_some_iff {fs : FileSystem} {l : Location} {c : Content} :
    fs.file? l = some c ↔ fs.node? l = some (.file c) := by
  rw [file?]
  split
  · next c' hnode => rw [hnode, Option.some.injEq, Option.some.injEq, Node.file.injEq]
  · next hnode => exact ⟨nofun, fun h => absurd h (hnode c)⟩

theorem Grows.spares {changed : Location → Prop} {fs fs' : FileSystem}
    (h : Grows changed fs fs') : FileView.Spares ⟨FileSystem.here, file?⟩ changed fs fs' where
  here := h.here
  files l hl := Option.ext fun c => by
    show fs'.file? l = some c ↔ fs.file? l = some c
    rw [file?_eq_some_iff, file?_eq_some_iff, h.elsewhere l hl c]

instance : LinkFree FileSystem where
  here := here
  file? := file?
  spares_read _ _ := .refl _ _
  spares_write p s fs := (grows_write fs p s).spares
  spares_makeDirectory p fs := (grows_makeDirectory fs p).spares
  spares_isDirectory _ _ := .refl _ _
  spares_acceptsWrites _ _ := .refl _ _

end FileSystem

end LoadScenario
