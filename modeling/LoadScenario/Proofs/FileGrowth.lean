import LoadScenario.Proofs.FileFrame

/-!
# How the files grow

Writing never takes anything away. Directories stay directories, files stay files, and the only file
that comes up or changes is the one at the destination of the path that is written.

What a path leads to can change, however, when something on its way was missing and is made. Such a
path does not name the file at its destination, if one is there at all, since a path can lead by a
missing directory only if it comes back out of it. For every other path the answer to whether its
file can be opened depends on the file alone.
-/

namespace LoadScenario

namespace FileSystem

variable {fs fs' fs'' : FileSystem} {p : Path} {l : Location}

/-- Where a part leads from a directory. -/
def enter (l : Location) (part : String) : Except Fault Location :=
  if part = "" ∨ part = "." then .ok l
  else if part = ".." then .ok l.dropLast
  else if maxName < part.utf8ByteSize then .error .nameTooLong
  else .ok (l ++ [part])

theorem follow_cons_of_directory (hl : fs.node? l = some .directory) (part : String)
    (rest : List String) :
    fs.follow l (part :: rest) = (enter l part).bind fun l' => fs.follow l' rest := by
  rw [follow, hl, enter]
  simp only
  split
  · rfl
  · split
    · rfl
    · split
      · rfl
      · rfl

theorem lead_cons_of_enter {part : String} {l' : Location} (h : enter l part = .ok l')
    (rest : List String) : Path.lead l (part :: rest) = Path.lead l' rest := by
  rw [enter] at h
  rw [Path.lead]
  split at h
  · next hidle =>
      obtain rfl := Except.ok.inj h
      rw [if_pos hidle]
  · next hidle =>
      rw [if_neg hidle]
      split at h
      · next hup =>
          obtain rfl := Except.ok.inj h
          rw [if_pos hup]
      · next hup =>
          rw [if_neg hup]
          split at h
          · cases h
          · obtain rfl := Except.ok.inj h
            rfl

theorem eq_nameTooLong_of_enter {part : String} {fault : Fault} (h : enter l part = .error fault) :
    fault = .nameTooLong := by
  rw [enter] at h
  split at h
  · cases h
  · split at h
    · cases h
    · split at h
      · exact (Except.error.inj h).symm
      · cases h

theorem eq_lead_of_follow {parts : List String} {l' : Location}
    (h : fs.follow l parts = .ok l') : l' = Path.lead l parts := by
  induction parts generalizing l with
  | nil => exact (Except.ok.inj h).symm
  | cons part rest ih =>
      cases hnode : fs.node? l with
      | none =>
          rw [follow, hnode] at h
          cases h
      | some node =>
          cases node with
          | file c =>
              rw [follow, hnode] at h
              cases h
          | directory =>
              rw [follow_cons_of_directory hnode] at h
              cases henter : enter l part with
              | error fault =>
                  rw [henter] at h
                  cases h
              | ok next =>
                  rw [henter] at h
                  rw [lead_cons_of_enter henter]
                  exact ih h

theorem locate_eq_ok_iff : fs.locate p = .ok l ↔
    p.isEmpty = false ∧ '\x00' ∉ p.text.toList ∧ p.text.utf8ByteSize ≤ maxPath ∧
      fs.follow (if Path.isRooted p.text then [] else fs.here) p.parts = .ok l := by
  rw [locate]
  split
  next hempty => simp [hempty]
  next hempty =>
    split
    next hnul => simp_all
    next hnul =>
      split
      next hlong => simp [Nat.not_le.mpr hlong]
      next hlong => simp_all

theorem eq_destination_of_locate (h : fs.locate p = .ok l) : l = p.destination fs.here :=
  eq_lead_of_follow (locate_eq_ok_iff.mp h).2.2.2

/-- Nothing is taken away, and files come up or change at certain locations only. -/
structure Grows (changed : Location → Prop) (fs fs' : FileSystem) : Prop where
  here : fs'.here = fs.here
  directories : ∀ l, fs.node? l = some .directory → fs'.node? l = some .directory
  files : ∀ l c, fs.node? l = some (.file c) → ∃ c', fs'.node? l = some (.file c')
  elsewhere : ∀ l, ¬ changed l → ∀ c, fs'.node? l = some (.file c) ↔ fs.node? l = some (.file c)

namespace Grows

variable {changed changed' : Location → Prop}

theorem refl (changed : Location → Prop) (fs : FileSystem) : Grows changed fs fs :=
  ⟨rfl, fun _ h => h, fun _ c h => ⟨c, h⟩, fun _ _ _ => Iff.rfl⟩

theorem trans (h : Grows changed fs fs') (h' : Grows changed fs' fs'') :
    Grows changed fs fs'' where
  here := h'.here.trans h.here
  directories l hl := h'.directories l (h.directories l hl)
  files l c hl := by
    obtain ⟨c', hl'⟩ := h.files l c hl
    exact h'.files l c' hl'
  elsewhere l hl c := (h'.elsewhere l hl c).trans (h.elsewhere l hl c)

theorem mono (h : Grows changed fs fs') (hle : ∀ l, changed l → changed' l) :
    Grows changed' fs fs' :=
  ⟨h.here, h.directories, h.files, fun l hl => h.elsewhere l fun hc => hl (hle l hc)⟩

/-- A way on which nothing is missing stays as it is. -/
theorem follow (h : Grows changed fs fs') {parts : List String}
    (hparts : fs.follow l parts ≠ .error .notFound) : fs'.follow l parts = fs.follow l parts := by
  induction parts generalizing l with
  | nil => rfl
  | cons part rest ih =>
      cases hnode : fs.node? l with
      | none =>
          rw [FileSystem.follow, hnode] at hparts
          exact absurd rfl hparts
      | some node =>
          cases node with
          | file c =>
              obtain ⟨c', hnode'⟩ := h.files l c hnode
              rw [FileSystem.follow, FileSystem.follow, hnode, hnode']
          | directory =>
              rw [follow_cons_of_directory hnode] at hparts
              rw [follow_cons_of_directory hnode, follow_cons_of_directory (h.directories l hnode)]
              cases henter : enter l part with
              | error fault => rfl
              | ok next =>
                  rw [henter] at hparts
                  exact ih hparts

theorem locate (h : Grows changed fs fs') (hp : fs.locate p ≠ .error .notFound) :
    fs'.locate p = fs.locate p := by
  rw [FileSystem.locate] at hp
  rw [FileSystem.locate, FileSystem.locate, h.here]
  split
  · rfl
  · next hempty =>
      rw [if_neg hempty] at hp
      split
      · rfl
      · next hnul =>
          rw [if_neg hnul] at hp
          split
          · rfl
          · next hlong =>
              rw [if_neg hlong] at hp
              exact h.follow hp

theorem locate_of_ok {l : Location} (h : Grows changed fs fs') (hl : fs.locate p = .ok l) :
    fs'.locate p = .ok l := by
  rw [h.locate (by rw [hl]; exact nofun), hl]

end Grows

/-! ## What a path names -/

/-- The path leads to the file at its destination, if there is one; at least nothing on its way is
missing. -/
def Leads (fs : FileSystem) (p : Path) : Prop :=
  fs.locate p = .error .notFound → ∀ c, fs.node? (p.destination fs.here) ≠ some (.file c)

theorem read_eq_ok_iff {c : Content} :
    fs.read p = .ok c ↔ ∃ l, fs.locate p = .ok l ∧ fs.node? l = some (.file c) := by
  rw [read]
  cases hlocate : fs.locate p with
  | error fault =>
      constructor
      · intro h
        cases h
      · rintro ⟨_, h, _⟩
        cases h
  | ok l =>
      simp only [bind, Except.bind]
      constructor
      · intro h
        split at h
        · cases h
        · cases h
        · next content hnode =>
            obtain rfl := Except.ok.inj h
            exact ⟨l, rfl, hnode⟩
      · rintro ⟨l', hl, hnode⟩
        obtain rfl := Except.ok.inj hl
        rw [hnode]

theorem acceptsWrites_iff : fs.acceptsWrites p ↔ ∃ c, fs.read p = .ok c := by
  rw [acceptsWrites]
  cases fs.read p with
  | error fault => simp
  | ok c => simp

namespace Grows

variable {changed : Location → Prop}

theorem leads (h : Grows changed fs fs') (hp : ¬ changed (p.destination fs.here))
    (hleads : fs.Leads p) : fs'.Leads p := by
  intro hmissing c hfile
  rw [h.here, h.elsewhere _ hp] at hfile
  by_cases hbefore : fs.locate p = .error .notFound
  · exact hleads hbefore c hfile
  · rw [h.locate hbefore] at hmissing
    exact hbefore hmissing

/-- A path that leads to its file goes on doing so, and as long as nobody writes it the file holds
the same. -/
theorem read_iff (h : Grows changed fs fs') (hp : ¬ changed (p.destination fs.here))
    (hleads : fs.Leads p) {c : Content} : fs'.read p = .ok c ↔ fs.read p = .ok c := by
  rw [read_eq_ok_iff, read_eq_ok_iff]
  constructor
  · rintro ⟨l, hl, hfile⟩
    obtain rfl := eq_destination_of_locate hl
    rw [h.here] at hl hfile
    rw [h.elsewhere _ hp] at hfile
    have hfound : fs.locate p ≠ .error .notFound := fun hmissing => hleads hmissing c hfile
    rw [h.locate hfound] at hl
    exact ⟨_, hl, hfile⟩
  · rintro ⟨l, hl, hfile⟩
    obtain rfl := eq_destination_of_locate hl
    exact ⟨_, h.locate_of_ok hl, (h.elsewhere _ hp c).mpr hfile⟩

theorem acceptsWrites_eq (h : Grows changed fs fs') (hp : ¬ changed (p.destination fs.here))
    (hleads : fs.Leads p) : fs'.acceptsWrites p = fs.acceptsWrites p := by
  rw [Bool.eq_iff_iff, acceptsWrites_iff, acceptsWrites_iff]
  exact exists_congr fun c => h.read_iff hp hleads

end Grows

/-! ## The operations -/

theorem not_prefix_of_node? (hl : fs.node? l ≠ some .directory) : ¬ l <+: fs.here := by
  intro hprefix
  rw [node?, if_pos hprefix] at hl
  exact hl rfl

theorem node?_put_self (hl : fs.node? l ≠ some .directory) (n : Node) :
    (fs.put l n).node? l = some n := by
  rw [node?_put, if_pos ⟨rfl, not_prefix_of_node? hl⟩]

theorem node?_put_of_ne {l' : Location} (hne : l' ≠ l) (n : Node) :
    (fs.put l n).node? l' = fs.node? l' := by
  rw [node?_put, if_neg fun h => hne h.1]

theorem grows_put_file (hl : fs.node? l ≠ some .directory) (c : Content) :
    Grows (· = l) fs (fs.put l (.file c)) where
  here := rfl
  directories l' hl' := by
    have hne : l' ≠ l := by
      rintro rfl
      exact hl hl'
    rw [node?_put_of_ne hne, hl']
  files l' c' hl' := by
    by_cases hne : l' = l
    · subst hne
      exact ⟨c, node?_put_self hl _⟩
    · exact ⟨c', by rw [node?_put_of_ne hne, hl']⟩
  elsewhere l' hne c' := by rw [node?_put_of_ne hne]

theorem grows_put_directory (hl : fs.node? l = none) :
    Grows (fun _ => False) fs (fs.put l .directory) := by
  have hvacant : fs.node? l ≠ some .directory := by rw [hl]; exact nofun
  have hother : ∀ l' n, fs.node? l' = some n → l' ≠ l := by
    rintro l' n hl' rfl
    rw [hl] at hl'
    cases hl'
  refine ⟨rfl, fun l' hl' => ?_, fun l' c hl' => ⟨c, ?_⟩, fun l' _ c => ?_⟩
  · rw [node?_put_of_ne (hother l' _ hl'), hl']
  · rw [node?_put_of_ne (hother l' _ hl'), hl']
  · by_cases hne : l' = l
    · subst hne
      rw [node?_put_self hvacant, hl]
      exact ⟨nofun, nofun⟩
    · rw [node?_put_of_ne hne]

theorem write_eq_ok_iff {c : Content} : fs.write p c = .ok fs' ↔
    ∃ l, fs.locate p = .ok l ∧ fs.node? l ≠ some .directory ∧ fs' = fs.put l (.file c) := by
  rw [write]
  cases fs.locate p with
  | error fault =>
      constructor
      · intro h
        cases h
      · rintro ⟨_, h, _⟩
        cases h
  | ok l =>
      simp only [bind, Except.bind]
      constructor
      · intro h
        split at h
        · cases h
        · next hnode => exact ⟨l, rfl, hnode, (Except.ok.inj h).symm⟩
      · rintro ⟨l', hl, hnode, rfl⟩
        obtain rfl := Except.ok.inj hl
        split
        · next hdirectory => exact absurd hdirectory hnode
        · rfl

theorem write_cases (fs : FileSystem) (p : Path) (s : String) :
    (runOn (FileAccess.write p s : StateM FileSystem _) fs).2 = fs ∧
        (∀ l, fs.locate p = .ok l → fs.node? l = some .directory) ∨
      ∃ l, fs.locate p = .ok l ∧ fs.node? l ≠ some .directory ∧
        (runOn (FileAccess.write p s : StateM FileSystem _) fs).2 =
          fs.put l (.file (.text s)) := by
  show (attempt (fun fs => fs.write p (.text s)) fs).2 = fs ∧ _ ∨
    ∃ l, _ ∧ _ ∧ (attempt (fun fs => fs.write p (.text s)) fs).2 = _
  rw [attempt]
  cases hwrite : fs.write p (.text s) with
  | ok fs' =>
      obtain ⟨l, hl, hnode, rfl⟩ := write_eq_ok_iff.mp hwrite
      exact .inr ⟨l, hl, hnode, rfl⟩
  | error fault =>
      refine .inl ⟨rfl, fun l hl => Decidable.byContradiction fun hnode => ?_⟩
      rw [write_eq_ok_iff.mpr ⟨l, hl, hnode, rfl⟩] at hwrite
      cases hwrite

theorem exists_put_of_write {s : String}
    (h : (runOn (FileAccess.write p s : StateM FileSystem _) fs).1 = .ok ()) :
    ∃ l, fs.locate p = .ok l ∧ fs.node? l ≠ some .directory ∧
      (runOn (FileAccess.write p s : StateM FileSystem _) fs).2 = fs.put l (.file (.text s)) := by
  change (attempt (fun fs => fs.write p (.text s)) fs).1 = .ok () at h
  show ∃ l, _ ∧ _ ∧ (attempt (fun fs => fs.write p (.text s)) fs).2 = _
  rw [attempt] at h ⊢
  cases hwrite : fs.write p (.text s) with
  | ok fs' => exact write_eq_ok_iff.mp hwrite
  | error fault =>
      rw [hwrite] at h
      cases h

theorem grows_write (fs : FileSystem) (p : Path) (s : String) :
    Grows (· = p.destination fs.here) fs
      (runOn (FileAccess.write p s : StateM FileSystem _) fs).2 := by
  rcases write_cases fs p s with ⟨hsame, -⟩ | ⟨l, hl, hnode, hput⟩
  · rw [hsame]
    exact .refl _ _
  · rw [hput, ← eq_destination_of_locate hl]
    exact grows_put_file hnode _

/-- What can be read at the path of a file that has been written is what has been written. -/
theorem eq_of_read_write {s : String} {c : Content}
    (hc : (runOn (FileAccess.write p s : StateM FileSystem _) fs).2.read p = .ok c) :
    c = .text s := by
  obtain ⟨l, hl, hfile⟩ := read_eq_ok_iff.mp hc
  have hdestination := eq_destination_of_locate hl
  rw [(grows_write fs p s).here] at hdestination
  rcases write_cases fs p s with ⟨hsame, hdirectory⟩ | ⟨l', hl', hnode, hput⟩
  · rw [hsame] at hl hfile
    rw [hdirectory l hl] at hfile
    cases hfile
  · have hll' : l = l' := hdestination.trans (eq_destination_of_locate hl').symm
    rw [hput, hll', node?_put_self hnode] at hfile
    exact (Node.file.inj (Option.some.inj hfile)).symm

theorem leads_write (hleads : fs.Leads p) (s : String) :
    (runOn (FileAccess.write p s : StateM FileSystem _) fs).2.Leads p := by
  rcases write_cases fs p s with ⟨hsame, -⟩ | ⟨l, hl, -, -⟩
  · rw [hsame]
    exact hleads
  · intro hmissing
    rw [(grows_write fs p s).locate_of_ok hl] at hmissing
    cases hmissing

theorem makeDirectory_cases (fs : FileSystem) (p : Path) :
    (∃ l, fs.locate p = .ok l ∧ fs.node? l = none ∧
        runOn (FileAccess.makeDirectory p : StateM FileSystem _) fs =
          (.ok (), fs.put l .directory)) ∨
      ∃ fault, runOn (FileAccess.makeDirectory p : StateM FileSystem _) fs =
        (.error fault, fs) := by
  show (∃ l, _ ∧ _ ∧ attempt (fun fs => fs.makeDirectory p) fs = _) ∨
    ∃ fault, attempt (fun fs => fs.makeDirectory p) fs = _
  rw [attempt, makeDirectory]
  cases hlocate : fs.locate p with
  | error fault => exact .inr ⟨fault, rfl⟩
  | ok l =>
      simp only [bind, Except.bind]
      cases hnode : fs.node? l with
      | none => exact .inl ⟨l, rfl, hnode, rfl⟩
      | some node => exact .inr ⟨.alreadyExists, rfl⟩

theorem grows_makeDirectory (fs : FileSystem) (p : Path) :
    Grows (fun _ => False) fs
      (runOn (FileAccess.makeDirectory p : StateM FileSystem _) fs).2 := by
  rcases makeDirectory_cases fs p with ⟨l, -, hnode, hrun⟩ | ⟨fault, hrun⟩
  · rw [hrun]
    exact grows_put_directory hnode
  · rw [hrun]
    exact .refl _ _

theorem framing_grows : Framing FileSystem.here Grows where
  refl := .refl
  trans := .trans
  mono := .mono
  read _ _ := .refl _ _
  write p s fs := grows_write fs p s
  makeDirectory p fs := grows_makeDirectory fs p
  isDirectory _ _ := .refl _ _
  acceptsWrites _ _ := .refl _ _

end FileSystem

end LoadScenario
