import LoadScenario.Proofs.BodyFiles
import LoadScenario.Proofs.LinkFree

/-!
# Two runs on files that look alike

Writing a simulation never looks into a file. Whether a path leads somewhere, whether a directory
can be made and a file be written or opened, all of that depends on where there are files and where
there are directories. So two runs on file systems with the same files and directories, whatever the
files hold, go through the same steps and get the same answers.

`Twins` is the relation that the two file systems stay in. What is written in both of them is the
same, but for files of their own. A file that differs otherwise has been there from the start.
-/

namespace LoadScenario

/-! ## Computations in step -/

/-- Two computations on files that are related answer with related results and leave related
files. -/
def InStep {α β : Type} (R : FileSystem → FileSystem → Prop) (S : α → β → Prop)
    (x : StateM FileSystem α) (y : StateM FileSystem β) : Prop :=
  ∀ fs fs', R fs fs' → S (runOn x fs).1 (runOn y fs').1 ∧ R (runOn x fs).2 (runOn y fs').2

namespace InStep

variable {α β γ δ : Type} {R : FileSystem → FileSystem → Prop} {S : α → β → Prop}
  {T : γ → δ → Prop}

theorem pure {a : α} {b : β} (h : S a b) : InStep R S (Pure.pure a) (Pure.pure b) :=
  fun _ _ hR => ⟨h, hR⟩

theorem bind {x : StateM FileSystem α} {y : StateM FileSystem β} {f : α → StateM FileSystem γ}
    {g : β → StateM FileSystem δ} (hx : InStep R S x y)
    (hf : ∀ a b, S a b → InStep R T (f a) (g b)) : InStep R T (x >>= f) (y >>= g) := by
  intro fs fs' hR
  obtain ⟨hS, hR⟩ := hx fs fs' hR
  rw [runOn_bind, runOn_bind]
  exact hf _ _ hS _ _ hR

/-- The same answer in both runs can be used as one. -/
theorem bind_eq {x y : StateM FileSystem α} {f : α → StateM FileSystem γ}
    {g : α → StateM FileSystem δ} (hx : InStep R Eq x y) (hf : ∀ a, InStep R T (f a) (g a)) :
    InStep R T (x >>= f) (y >>= g) := by
  refine hx.bind fun a b hab => ?_
  subst hab
  exact hf a

end InStep

/-! ## Twins -/

/-- What stands there, whatever it holds. -/
def Node.blanked : Node → Node
  | .file _ => .file (.text "")
  | .directory => .directory

/-- How it stands with two file systems that have come from two others by the same steps. -/
structure Twins (own : Location → Prop) (start start' fs fs' : FileSystem) : Prop where
  here : fs.here = start.here
  here' : fs'.here = start.here
  alike : ∀ l, (fs'.node? l).map Node.blanked = (fs.node? l).map Node.blanked
  nodes : ∀ l, ¬ own l → fs'.node? l = fs.node? l ∨
    fs.node? l = start.node? l ∧ fs'.node? l = start'.node? l

namespace Twins

variable {own own' : Location → Prop} {start start' fs fs' : FileSystem} {l : Location}

theorem mono (h : Twins own start start' fs fs') (hle : ∀ l, own l → own' l) :
    Twins own' start start' fs fs' :=
  ⟨h.here, h.here', h.alike, fun l hl => h.nodes l fun hown => hl (hle l hown)⟩

theorem directory_iff (h : Twins own start start' fs fs') (l : Location) :
    fs'.node? l = some .directory ↔ fs.node? l = some .directory := by
  have halike := h.alike l
  rcases hl : fs.node? l with _ | ⟨c⟩ | _ <;> rcases hl' : fs'.node? l with _ | ⟨c'⟩ | _ <;>
    simp_all [Node.blanked]

theorem file_iff (h : Twins own start start' fs fs') (l : Location) :
    (∃ c, fs'.node? l = some (.file c)) ↔ ∃ c, fs.node? l = some (.file c) := by
  have halike := h.alike l
  rcases hl : fs.node? l with _ | ⟨c⟩ | _ <;> rcases hl' : fs'.node? l with _ | ⟨c'⟩ | _ <;>
    simp_all [Node.blanked]

theorem follow (h : Twins own start start' fs fs') (l : Location) (parts : List String) :
    fs'.follow l parts = fs.follow l parts := by
  induction parts generalizing l with
  | nil => rfl
  | cons part rest ih =>
      have halike := h.alike l
      rcases hl : fs.node? l with _ | ⟨c⟩ | _ <;> rcases hl' : fs'.node? l with _ | ⟨c'⟩ | _ <;>
        simp_all [Node.blanked, FileSystem.follow]

theorem locate (h : Twins own start start' fs fs') (p : Path) : fs'.locate p = fs.locate p := by
  rw [FileSystem.locate, FileSystem.locate, h.here', ← h.here]
  split
  · rfl
  · split
    · rfl
    · split
      · rfl
      · exact h.follow _ _

/-- The same kind of thing is put at one place in both. -/
theorem put (h : Twins own start start' fs fs') {n n' : Node} (hn : n'.blanked = n.blanked)
    (hsame : n' = n ∨ own l) : Twins own start start' (fs.put l n) (fs'.put l n') := by
  refine ⟨h.here, h.here', fun l' => ?_, fun l' hown => ?_⟩
  · rw [FileSystem.node?_put, FileSystem.node?_put, h.here', ← h.here]
    split
    · rw [Option.map_some, Option.map_some, hn]
    · exact h.alike l'
  · rw [FileSystem.node?_put, FileSystem.node?_put, h.here', ← h.here]
    split
    next hl =>
      refine .inl (hsame.elim (congrArg some) fun hown' => absurd ?_ hown)
      rw [hl.1]
      exact hown'
    next => exact h.nodes l' hown

end Twins

/-! ## The operations -/

namespace FileSystem

theorem runOn_write (fs : FileSystem) (p : Path) (s : String) :
    runOn (FileAccess.write p s : StateM FileSystem _) fs =
      match fs.locate p with
      | .error fault => (.error fault, fs)
      | .ok l =>
        if fs.node? l = some .directory then (.error .isDirectory, fs)
        else (.ok (), fs.put l (.file (.text s))) := by
  show attempt (fun fs => fs.write p (.text s)) fs = _
  rw [attempt, write]
  cases fs.locate p with
  | error fault => rfl
  | ok l =>
      simp only [bind, Except.bind]
      rcases fs.node? l with _ | ⟨c⟩ | _ <;> rfl

theorem runOn_makeDirectory (fs : FileSystem) (p : Path) :
    runOn (FileAccess.makeDirectory p : StateM FileSystem _) fs =
      match fs.locate p with
      | .error fault => (.error fault, fs)
      | .ok l =>
        if (fs.node? l).isSome then (.error .alreadyExists, fs)
        else (.ok (), fs.put l .directory) := by
  show attempt (fun fs => fs.makeDirectory p) fs = _
  rw [attempt, makeDirectory]
  cases fs.locate p with
  | error fault => rfl
  | ok l =>
      simp only [bind, Except.bind]
      cases fs.node? l <;> rfl

end FileSystem

section

variable {own : Location → Prop} {start start' : FileSystem}

theorem inStep_write {p : Path} {s s' : String} (h : s' = s ∨ own (p.destination start.here)) :
    InStep (Twins own start start') Eq (FileAccess.write p s) (FileAccess.write p s') := by
  intro fs fs' htwins
  rw [FileSystem.runOn_write, FileSystem.runOn_write, htwins.locate]
  cases hlocate : fs.locate p with
  | error fault => exact ⟨rfl, htwins⟩
  | ok l =>
      simp only [htwins.directory_iff]
      split
      · exact ⟨rfl, htwins⟩
      · refine ⟨rfl, htwins.put rfl (h.imp (fun hs => by rw [hs]) fun hown => ?_)⟩
        rw [FileSystem.eq_destination_of_locate hlocate, htwins.here]
        exact hown

theorem inStep_makeDirectory (p : Path) : InStep (Twins own start start') Eq
    (FileAccess.makeDirectory p) (FileAccess.makeDirectory p) := by
  intro fs fs' htwins
  rw [FileSystem.runOn_makeDirectory, FileSystem.runOn_makeDirectory, htwins.locate]
  cases fs.locate p with
  | error fault => exact ⟨rfl, htwins⟩
  | ok l =>
      have hthere : (fs'.node? l).isSome = (fs.node? l).isSome := by
        have halike := congrArg Option.isSome (htwins.alike l)
        rwa [Option.isSome_map, Option.isSome_map] at halike
      simp only [hthere]
      split
      · exact ⟨rfl, htwins⟩
      · exact ⟨rfl, htwins.put rfl (.inl rfl)⟩

theorem inStep_isDirectory (p : Path) : InStep (Twins own start start') Eq
    (FileAccess.isDirectory p) (FileAccess.isDirectory p) := by
  intro fs fs' htwins
  refine ⟨?_, htwins⟩
  show fs.isDirectory p = fs'.isDirectory p
  rw [Bool.eq_iff_iff, FileSystem.isDirectory_iff, FileSystem.isDirectory_iff, htwins.locate]
  simp only [htwins.directory_iff]

theorem Twins.acceptsWrites {fs fs' : FileSystem} (h : Twins own start start' fs fs') (p : Path) :
    fs'.acceptsWrites p = fs.acceptsWrites p := by
  rw [Bool.eq_iff_iff, FileSystem.acceptsWrites_iff, FileSystem.acceptsWrites_iff]
  simp only [FileSystem.read_eq_ok_iff, h.locate]
  constructor
  · rintro ⟨c, l, hl, hfile⟩
    obtain ⟨c', hfile'⟩ := (h.file_iff l).mp ⟨c, hfile⟩
    exact ⟨c', l, hl, hfile'⟩
  · rintro ⟨c, l, hl, hfile⟩
    obtain ⟨c', hfile'⟩ := (h.file_iff l).mpr ⟨c, hfile⟩
    exact ⟨c', l, hl, hfile'⟩

theorem inStep_acceptsWrites (p : Path) : InStep (Twins own start start') Eq
    (FileAccess.acceptsWrites p) (FileAccess.acceptsWrites p) :=
  fun _ _ htwins => ⟨(htwins.acceptsWrites p).symm, htwins⟩

theorem inStep_ensureDirectory (p : Path) :
    InStep (Twins own start start') Eq (ensureDirectory p) (ensureDirectory p) := by
  refine (inStep_makeDirectory p).bind_eq fun made => ?_
  cases made with
  | ok _ => exact .pure rfl
  | error fault => exact (inStep_isDirectory p).bind_eq fun _ => .pure rfl

theorem inStep_makeFirst (ps : List Path) :
    InStep (Twins own start start') Eq (makeFirst ps) (makeFirst ps) := by
  induction ps with
  | nil => exact .pure rfl
  | cons p outer ih =>
      rw [makeFirst]
      split
      · exact .pure rfl
      · refine (inStep_ensureDirectory p).bind_eq fun made => ?_
        split
        · refine ih.bind_eq fun above => ?_
          cases above with
          | ok _ => exact inStep_ensureDirectory p
          | error fault => exact .pure rfl
        · exact .pure rfl

theorem inStep_makeDirectories (p : Path) :
    InStep (Twins own start start') Eq (makeDirectories p) (makeDirectories p) :=
  inStep_makeFirst p.ancestors

end

end LoadScenario
