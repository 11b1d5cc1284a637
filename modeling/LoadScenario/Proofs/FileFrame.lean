import LoadScenario.Files.Tree
import LoadScenario.Proofs.OutputRun
import LoadScenario.Simulation.Basic

/-!
# What is left alone while files are written

All that is done to files is put together from five operations. Four of them touch no file, and
writing touches the one at the destination of its path. The destination of a path is known without a
look at the files, as long as there are no links: it is where the parts lead if every part on the
way is a directory.

What has been left alone between two states of the files can be said in more ways than one, and it
depends on how much is known of the files. `Framing` is what such a relation has to satisfy: each of
the operations keeps to it, and so does whatever comes after whatever. Then everything that is put
together from operations keeps to it as well, and that is shown here once for all of them.
-/

namespace LoadScenario

/-- Where parts lead from a location. -/
def Path.lead (l : Location) : List String → Location
  | [] => l
  | part :: rest =>
    if part = "" ∨ part = "." then lead l rest
    else if part = ".." then lead l.dropLast rest
    else lead (l ++ [part]) rest

/-- Where a path leads if relative paths start at a location. -/
def Path.destination (here : Location) (p : Path) : Location :=
  Path.lead (if Path.isRooted p.text then [] else here) p.parts

variable {W : Type} [FileAccess (StateM W)]

/-- A relation between earlier and later states of the files that says what has been left alone when
files were changed at certain locations. -/
structure Framing (here : W → Location) (R : (Location → Prop) → W → W → Prop) : Prop where
  refl : ∀ changed w, R changed w w
  trans : ∀ {changed w w' w''}, R changed w w' → R changed w' w'' → R changed w w''
  mono : ∀ {changed changed' w w'}, R changed w w' → (∀ l, changed l → changed' l) →
    R changed' w w'
  read : ∀ p w, R (fun _ => False) w (runOn (FileAccess.read p : StateM W _) w).2
  write : ∀ p s w, R (· = p.destination (here w)) w
    (runOn (FileAccess.write p s : StateM W _) w).2
  makeDirectory : ∀ p w, R (fun _ => False) w
    (runOn (FileAccess.makeDirectory p : StateM W _) w).2
  isDirectory : ∀ p w, R (fun _ => False) w
    (runOn (FileAccess.isDirectory p : StateM W _) w).2
  acceptsWrites : ∀ p w, R (fun _ => False) w
    (runOn (FileAccess.acceptsWrites p : StateM W _) w).2

namespace Framing

variable {here : W → Location} {R : (Location → Prop) → W → W → Prop}
  {changed : Location → Prop} {w w' : W}

/-- What touches no file is no matter wherever files may be touched. -/
theorem weaken (h : Framing here R) (hR : R (fun _ => False) w w') : R changed w w' :=
  h.mono hR fun _ hl => hl.elim

theorem readText (h : Framing here R) (p : Path) (w : W) :
    R changed w (runOn (readText p : StateM W _) w).2 :=
  h.weaken (h.read p w)

theorem readTemplate (h : Framing here R) (template : Option Path) (w : W) :
    R changed w (runOn (Simulation.readTemplate template : StateM W _) w).2 := by
  cases template with
  | none => exact h.refl _ _
  | some path => exact h.readText path w

theorem ensureDirectory (h : Framing here R) (p : Path) (w : W) :
    R changed w (runOn (ensureDirectory p : StateM W _) w).2 := by
  have hmade : R changed w (runOn (FileAccess.makeDirectory p : StateM W _) w).2 :=
    h.weaken (h.makeDirectory p w)
  rw [LoadScenario.ensureDirectory, runOn_bind]
  split
  · exact hmade
  · exact h.trans hmade (h.weaken (h.isDirectory p _))

theorem makeFirst (h : Framing here R) (ps : List Path) (w : W) :
    R changed w (runOn (makeFirst ps : StateM W _) w).2 := by
  induction ps generalizing w with
  | nil => exact h.refl _ _
  | cons p outer ih =>
      have hensured : ∀ w, R changed w (runOn (LoadScenario.ensureDirectory p : StateM W _) w).2 :=
        h.ensureDirectory p
      rw [LoadScenario.makeFirst]
      split
      · exact h.refl _ _
      · rw [runOn_bind]
        split
        · rw [runOn_bind]
          split
          · exact h.trans (h.trans (hensured w) (ih _)) (hensured _)
          · exact h.trans (hensured w) (ih _)
        · exact hensured w

theorem makeDirectories (h : Framing here R) (p : Path) (w : W) :
    R changed w (runOn (makeDirectories p : StateM W _) w).2 :=
  h.makeFirst p.ancestors w

/-- Writing a file of an output, with the directories around it, touches that file at most. -/
theorem advance (h : Framing here R) (f : OutputFile) (w : W) :
    R (· = f.path.destination (here w)) w (runOn (f.advance : StateM W _) w).2 := by
  rw [OutputFile.advance]
  split
  · split
    · exact h.refl _ _
    · next dir _ =>
        rw [runOn_bind]
        split
        · exact h.makeDirectories dir w
        · exact h.makeDirectories dir w
  · rw [runOn_bind]
    split
    · exact h.write f.path f.content w
    · exact h.write f.path f.content w
  · exact h.refl _ _

end Framing

end LoadScenario
