import LoadScenario.Proofs.FileGrowth
import LoadScenario.Proofs.TextSearch

/-!
# Inside a directory that has been made

Once a directory has been made, the path of anything directly inside of it can miss nothing on its
way. So such a path leads to its file whatever the path of the directory looks like, with parent
steps, doubled slashes or a slash at its end. This is what joining a path and a name comes to for
whoever follows the path: first the path of the directory is followed and then the name.
-/

namespace LoadScenario

namespace Path

variable {p : Path} {name : String}

/-- The parts of a joined path are those of the name behind those of the directory, but for the
empty part that a slash at the end makes. -/
theorem parts_join (hp : p.isEmpty = false) (hname : isRooted name = false) :
    ∃ front, (p.parts = front ∨ p.parts = front ++ [""]) ∧
      (p.join name).parts = front ++ (Path.mk name).parts := by
  have hrooted : ¬ isRooted name = true := by rw [hname]; exact nofun
  rw [join, if_neg hrooted, hp, Bool.false_or]
  by_cases hend : p.text.toList.getLast? = some '/'
  · rw [if_pos (decide_eq_true hend)]
    obtain ⟨front, hfront⟩ := List.getLast?_eq_some_iff.mp hend
    refine ⟨(front.splitOn '/').map String.ofList, .inr ?_, ?_⟩
    · rw [parts_eq_append hfront]
      rfl
    · refine parts_eq_append ?_
      rw [String.toList_append, hfront, List.append_assoc, List.singleton_append]
  · rw [if_neg (by rw [decide_eq_false hend]; exact nofun)]
    refine ⟨p.parts, .inl rfl, ?_⟩
    have htext : (p.text ++ "/" ++ name).toList = p.text.toList ++ '/' :: name.toList := by
      rw [String.toList_append, String.toList_append, List.append_assoc]
      rfl
    exact parts_eq_append htext

theorem text_join (hp : p.isEmpty = false) (hname : isRooted name = false) :
    ∃ behind, (p.join name).text = p.text ++ behind := by
  have hrooted : ¬ isRooted name = true := by rw [hname]; exact nofun
  rw [join, if_neg hrooted, hp, Bool.false_or]
  split
  · exact ⟨name, rfl⟩
  · exact ⟨"/" ++ name, String.append_assoc ..⟩

/-- What is joined to the empty path stands alone. -/
theorem empty_join (hname : isRooted name = false) : join ⟨""⟩ name = ⟨name⟩ := by
  have hrooted : ¬ isRooted name = true := by rw [hname]; exact Bool.false_ne_true
  rw [join, if_neg hrooted]
  exact congrArg Path.mk String.empty_append

theorem isRooted_append {s : String} (hs : s.isEmpty = false) (behind : String) :
    isRooted (s ++ behind) = isRooted s := by
  rw [isRooted, isRooted, String.toList_append]
  cases h : s.toList with
  | nil =>
      rw [String.toList_eq_nil_iff.mp h] at hs
      cases hs
  | cons c cs => rfl

theorem isRooted_of_not_mem (hname : '/' ∉ name.toList) : isRooted name = false := by
  rw [isRooted, decide_eq_false_iff_not]
  exact fun hhead => hname (List.mem_of_head? hhead)

theorem parts_of_not_mem (hname : '/' ∉ name.toList) : (Path.mk name).parts = [name] := by
  rw [parts, List.splitOn_eq_singleton hname]
  exact congrArg (fun s => [s]) String.ofList_toList

end Path

namespace FileSystem

variable {fs : FileSystem} {p : Path} {name : String} {l l' : Location}

theorem follow_append (fs : FileSystem) (l : Location) (parts rest : List String) :
    fs.follow l (parts ++ rest) = (fs.follow l parts).bind fun l' => fs.follow l' rest := by
  induction parts generalizing l with
  | nil => rfl
  | cons part parts ih =>
      cases hnode : fs.node? l with
      | none =>
          rw [List.cons_append, follow, follow, hnode]
          rfl
      | some node =>
          cases node with
          | file c =>
              rw [List.cons_append, follow, follow, hnode]
              rfl
          | directory =>
              rw [List.cons_append, follow_cons_of_directory hnode, follow_cons_of_directory hnode]
              cases enter l part with
              | error fault => rfl
              | ok next => exact ih next

theorem follow_join (hp : p.isEmpty = false) (hname : Path.isRooted name = false)
    (h : fs.follow l p.parts = .ok l') :
    fs.follow l (p.join name).parts = fs.follow l' (Path.mk name).parts := by
  obtain ⟨front, hfront, hparts⟩ := Path.parts_join hp hname
  have hreached : fs.follow l front = .ok l' := by
    rcases hfront with hfront | hfront
    · rw [← hfront, h]
    · rw [hfront, follow_append] at h
      cases hbefore : fs.follow l front with
      | error fault =>
          rw [hbefore] at h
          cases h
      | ok l'' =>
          rw [hbefore] at h
          -- The empty part stays where it is.
          have hidle : l' = Path.lead l'' [""] := eq_lead_of_follow h
          exact congrArg _ hidle.symm
  rw [hparts, follow_append, hreached]
  rfl

theorem isDirectory_iff : fs.isDirectory p ↔
    ∃ l, fs.locate p = .ok l ∧ fs.node? l = some .directory := by
  rw [isDirectory]
  cases fs.locate p with
  | error fault => simp
  | ok l => simp

theorem follow_singleton_ne_notFound (hl : fs.node? l = some .directory) (part : String) :
    fs.follow l [part] ≠ .error .notFound := by
  rw [follow_cons_of_directory hl]
  cases henter : enter l part with
  | error fault =>
      obtain rfl := eq_nameTooLong_of_enter henter
      exact nofun
  | ok next => exact nofun

theorem locate_join_ne_notFound (hp : fs.isDirectory p) (hname : '/' ∉ name.toList) :
    fs.locate (p.join name) ≠ .error .notFound := by
  obtain ⟨l, hl, hnode⟩ := isDirectory_iff.mp hp
  have hrooted := Path.isRooted_of_not_mem hname
  obtain ⟨hempty, -, -, hfollow⟩ := locate_eq_ok_iff.mp hl
  obtain ⟨behind, htext⟩ := Path.text_join hempty hrooted
  have hjoined : ¬ (p.join name).isEmpty = true := by
    rw [Path.isEmpty, htext, String.isEmpty_iff, String.append_eq_empty_iff]
    rw [Path.isEmpty, String.isEmpty_eq_false_iff] at hempty
    exact fun h => hempty h.1
  have hsame : Path.isRooted (p.join name).text = Path.isRooted p.text := by
    rw [htext, Path.isRooted_append hempty]
  rw [locate, if_neg hjoined, hsame, follow_join hempty hrooted hfollow,
    Path.parts_of_not_mem hname]
  split
  · simp
  · split
    · simp
    · exact follow_singleton_ne_notFound hnode name

theorem leads_of_locate_ne (h : fs.locate p ≠ .error .notFound) : fs.Leads p :=
  fun hmissing => absurd hmissing h

/-- A name in the empty path is one in the current directory, which is always there. -/
theorem leads_join_of_isEmpty (hp : p.isEmpty) (hname : '/' ∉ name.toList) :
    fs.Leads (p.join name) := by
  have hhere : fs.node? fs.here = some .directory := if_pos (List.prefix_refl _)
  have hrooted := Path.isRooted_of_not_mem hname
  obtain ⟨text⟩ := p
  obtain rfl : text = "" := String.isEmpty_iff.mp hp
  rw [Path.empty_join hrooted]
  by_cases hempty : name = ""
  · intro _ c hc
    rw [hempty] at hc
    have hdestination : Path.destination fs.here ⟨""⟩ = fs.here := rfl
    rw [hdestination, hhere] at hc
    cases hc
  · refine leads_of_locate_ne ?_
    rw [locate, if_neg (by rwa [Path.isEmpty, String.isEmpty_iff]), hrooted,
      Path.parts_of_not_mem hname]
    split
    · simp
    · split
      · simp
      · exact follow_singleton_ne_notFound hhere name

/-! ## Making directories -/

theorem isDirectory_ensureDirectory
    (h : (runOn (ensureDirectory p : StateM FileSystem _) fs).1 = .ok ()) :
    (runOn (ensureDirectory p : StateM FileSystem _) fs).2.isDirectory p := by
  rw [ensureDirectory, runOn_bind] at h ⊢
  rcases makeDirectory_cases fs p with ⟨l, hl, hnode, hrun⟩ | ⟨fault, hrun⟩
  · rw [hrun]
    have hgrows := grows_put_directory hnode
    refine isDirectory_iff.mpr ⟨l, ?_, node?_put_self (by simp [hnode]) _⟩
    show (fs.put l .directory).locate p = .ok l
    rw [hgrows.locate (by simp [hl]), hl]
  · rw [hrun] at h ⊢
    show fs.isDirectory p = true
    cases hdirectory : fs.isDirectory p with
    | true => rfl
    | false =>
        have hfails : (if fs.isDirectory p then Except.ok () else Except.error fault) = .ok () := h
        rw [hdirectory] at hfails
        cases hfails

theorem isDirectory_makeDirectories (hp : p.isEmpty = false)
    (h : (runOn (makeDirectories p : StateM FileSystem _) fs).1 = .ok ()) :
    (runOn (makeDirectories p : StateM FileSystem _) fs).2.isDirectory p := by
  rw [makeDirectories, Path.ancestors, Path.ancestorsUpTo, makeFirst, hp,
    if_neg Bool.false_ne_true, runOn_bind] at h ⊢
  split at h
  · rw [runOn_bind] at h ⊢
    split at h
    · exact isDirectory_ensureDirectory h
    · cases h
  · exact isDirectory_ensureDirectory h

/-- What is directly inside of a directory that has been made. -/
theorem leads_join_makeDirectories
    (h : (runOn (makeDirectories p : StateM FileSystem _) fs).1 = .ok ())
    (hname : '/' ∉ name.toList) :
    (runOn (makeDirectories p : StateM FileSystem _) fs).2.Leads (p.join name) := by
  cases hp : p.isEmpty with
  | true => exact leads_join_of_isEmpty hp hname
  | false =>
      have hdirectory := isDirectory_makeDirectories hp h
      exact leads_of_locate_ne (locate_join_ne_notFound hdirectory hname)

end FileSystem

end LoadScenario
