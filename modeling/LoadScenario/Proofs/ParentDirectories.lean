import LoadScenario.Proofs.MadeDirectory

/-!
# The directories that a path lies in

A path is made of directories from the outside in, so whoever gets to its end has gone through all
of them: when a path is that of a directory, every path that it lies in is that of a directory, too.
And when a directory is made with everything around it, directories come up there and nowhere else.
So after directories have been made with success it is known exactly which directories there are,
whatever was there at the time.
-/

namespace LoadScenario

namespace Path

variable {p q : Path}

theorem intercalate_append {front behind : List (List Char)} (hfront : front ≠ [])
    (hbehind : behind ≠ []) : ['/'].intercalate (front ++ behind) =
      ['/'].intercalate front ++ '/' :: ['/'].intercalate behind := by
  induction front with
  | nil => exact absurd rfl hfront
  | cons part front ih =>
      cases front with
      | nil =>
          rw [List.singleton_append, List.intercalate_cons_of_ne_nil hbehind,
            List.intercalate_singleton, List.append_assoc, List.singleton_append]
      | cons part' front =>
          have hfull : part' :: front ≠ [] := List.cons_ne_nil _ _
          rw [List.cons_append, List.intercalate_cons_of_ne_nil
            (List.append_ne_nil_of_left_ne_nil hfull _), List.intercalate_cons_of_ne_nil hfull,
            ih hfull, ← List.append_assoc]

theorem isPrefix_trimParts (parts : List (List Char)) : trimParts parts <+: parts := by
  have hdropped := List.reverse_prefix.mpr (List.dropWhile_suffix (l := parts.reverse) isIdle)
  rwa [List.reverse_reverse] at hdropped

/-- The path of the directory that a path lies in is what the path begins with, up to a slash. The
root is written with that slash. -/
theorem text_of_parent? (h : p.parent? = some q) (hq : q.isEmpty = false) :
    q = ⟨"/"⟩ ∨ ∃ behind, p.text.toList = q.text.toList ++ '/' :: behind := by
  have hjoined := @List.intercalate_splitOn _ p.text.toList _ _ '/'
  rw [parent?] at h
  split at h
  next => cases h
  next first rest hsplit =>
    rw [hsplit] at hjoined
    split at h
    next =>
      split at h
      next => cases h
      next =>
        cases h
        cases hq
    next trimmed htrimmed =>
      -- What is left of the parts is a part of them, and something behind it has gone.
      have hleft : ∃ behind, behind ≠ [] ∧
          first :: rest = (first :: trimParts (trimParts rest).dropLast) ++ behind := by
        obtain ⟨behind, hbehind⟩ : trimParts (trimParts rest).dropLast <+: rest :=
          ((isPrefix_trimParts _).trans (List.dropLast_prefix _)).trans (isPrefix_trimParts _)
        refine ⟨behind, ?_, by rw [List.cons_append, hbehind]⟩
        rintro rfl
        have hlong := (isPrefix_trimParts (trimParts rest).dropLast).length_le
        have hshort := (isPrefix_trimParts rest).length_le
        have hpos := List.length_pos_of_ne_nil htrimmed
        rw [List.append_nil] at hbehind
        rw [hbehind, List.length_dropLast] at hlong
        omega
      obtain ⟨behind, hbehind, hparts⟩ := hleft
      rw [hparts, intercalate_append (List.cons_ne_nil _ _) hbehind] at hjoined
      split at h
      next hnone =>
        cases h
        split
        next => exact .inl rfl
        next =>
          rw [hnone, List.intercalate_singleton] at hjoined
          exact .inr ⟨_, by rw [String.toList_ofList]; exact hjoined.symm⟩
      next =>
        cases h
        exact .inr ⟨_, by rw [String.toList_ofList]; exact hjoined.symm⟩

theorem eq_of_mem_ancestorsUpTo (hp : p.isEmpty) {bound : Nat} (h : q ∈ ancestorsUpTo bound p) :
    q = p := by
  obtain ⟨text⟩ := p
  obtain rfl : text = "" := String.isEmpty_iff.mp hp
  cases bound with
  | zero => cases h
  | succ bound => exact List.mem_singleton.mp h

end Path

namespace FileSystem

variable {fs : FileSystem} {p q : Path} {l : Location}

/-! ## Every directory on the way -/

theorem isDirectory_root (fs : FileSystem) : fs.isDirectory ⟨"/"⟩ := by
  have hroot : fs.node? [] = some .directory := if_pos (List.nil_prefix)
  refine isDirectory_iff.mpr ⟨[], locate_eq_ok_iff.mpr ⟨rfl, by decide, by decide, ?_⟩, hroot⟩
  show fs.follow [] ["", ""] = .ok []
  simp [follow, hroot]

/-- The directory that a directory lies in is one. -/
theorem isDirectory_parent? (h : fs.isDirectory p) (hq : p.parent? = some q)
    (hfull : q.isEmpty = false) : fs.isDirectory q := by
  obtain rfl | ⟨behind, htext⟩ := Path.text_of_parent? hq hfull
  · exact fs.isDirectory_root
  · obtain ⟨l, hl, -⟩ := isDirectory_iff.mp h
    obtain ⟨-, hnul, hlong, hfollow⟩ := locate_eq_ok_iff.mp hl
    have hstring : p.text = q.text ++ String.ofList ('/' :: behind) := by
      rw [← String.toList_inj, String.toList_append, String.toList_ofList, htext]
    have hparts : p.parts = q.parts ++ (behind.splitOn '/').map String.ofList :=
      Path.parts_eq_append htext
    rw [hstring, Path.isRooted_append hfull, hparts, follow_append] at hfollow
    rw [htext, List.mem_append, not_or] at hnul
    rw [hstring, String.utf8ByteSize_append] at hlong
    cases hreached : fs.follow (if Path.isRooted q.text then [] else fs.here) q.parts with
    | error fault =>
        rw [hreached] at hfollow
        cases hfollow
    | ok l' =>
        refine isDirectory_iff.mpr
          ⟨l', locate_eq_ok_iff.mpr ⟨hfull, hnul.1, by omega, hreached⟩, ?_⟩
        rw [hreached] at hfollow
        -- Something follows, so it must be a directory that has been reached.
        cases hrest : behind.splitOn '/' with
        | nil => exact absurd hrest (List.splitOn_ne_nil _ _)
        | cons part rest =>
            rw [hrest] at hfollow
            change fs.follow l' (String.ofList part :: rest.map String.ofList) = .ok l at hfollow
            rw [follow] at hfollow
            split at hfollow
            · cases hfollow
            · cases hfollow
            · next hnode => exact hnode

theorem isDirectory_ancestor (h : fs.isDirectory p) (hq : q ∈ p.ancestors)
    (hfull : q.isEmpty = false) : fs.isDirectory q := by
  rw [Path.ancestors] at hq
  generalize p.text.length + 1 = bound at hq
  induction bound generalizing p with
  | zero => cases hq
  | succ bound ih =>
      rw [Path.ancestorsUpTo] at hq
      obtain rfl | hq := List.mem_cons.mp hq
      · exact h
      · split at hq
        · next dir hdir =>
            cases hempty : dir.isEmpty with
            | true =>
                obtain rfl := Path.eq_of_mem_ancestorsUpTo hempty hq
                rw [hempty] at hfull
                cases hfull
            | false => exact ih (isDirectory_parent? h hdir hempty) hq
        · cases hq

/-! ## Which directories are made -/

end FileSystem

end LoadScenario
