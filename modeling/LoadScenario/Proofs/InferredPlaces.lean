import LoadScenario.Proofs.AnnotationLines
import LoadScenario.Script.Parsed

/-!
# Places that the script before a call lets infer

The place of a value is inferred from two things: the value reads members of a variable and does
nothing else, and the script before the call assigns the parsed response body to that variable. Both
are said here by how they are written, and the two readers find just that. A name has no dot, so the
first dot of the value is the one behind the name and there is only one way to read it
(`memberAccess?_eq_some_iff`); and the name is looked for as it is, whatever characters it has
(`parsedInto_eq_some_iff`).

Distances are in bytes, and a distance is good if a character starts there or the script ends. What
stands before such a distance stands before every later one, so what has been inferred once stays.
A call stands behind characters of the script, hence at a good distance.
-/

namespace LoadScenario

open Text

/-! ## Characters of names and paths -/

namespace Text

theorem Ranges.exists_of_contains {rs : Ranges} {n : Nat} (h : rs.contains n) :
    ∃ r ∈ rs, r.1 ≤ n ∧ n ≤ r.2 := by
  fun_induction Ranges.contains rs n with
  | case1 => cases h
  | case2 => cases h
  | case3 n first last rest hfirst ih =>
      rcases Bool.or_eq_true_iff.mp h with hlast | hrest
      · exact ⟨_, List.mem_cons_self, Nat.le_of_not_lt hfirst, of_decide_eq_true hlast⟩
      · obtain ⟨r, hr, hbounds⟩ := ih hrest
        exact ⟨r, List.mem_cons_of_mem _ hr, hbounds⟩

end Text

namespace Script

theorem inMemberPath_of_isBlank {c : Char} (h : isBlank c) : inMemberPath c = false := by
  have hblank : ∀ r ∈ blankRanges, ∀ k < r.2 + 1 - r.1,
      inMemberPath (Char.ofNat (r.1 + k)) = false := by
    decide +kernel
  obtain ⟨r, hr, hfirst, hlast⟩ := Ranges.exists_of_contains h
  have hchar := hblank r hr (c.toNat - r.1) (by omega)
  rwa [Nat.add_sub_cancel' hfirst, Char.ofNat_toNat] at hchar

theorem inName_of_startsName {c : Char} (h : startsName c) : inName c := by
  have hlt : c.toNat < 128 := by
    simp only [startsName, Bool.or_eq_true, decide_eq_true_eq] at h
    rcases h with (halpha | rfl) | rfl
    · exact toNat_lt_of_isAlpha halpha
    · decide
    · decide
  exact forall_of_toNat_lt (p := fun c => startsName c → inName c) (by decide +kernel) hlt h

theorem isBlank_of_inMemberPath {c : Char} (h : inMemberPath c) : isBlank c = false := by
  by_contra hblank
  rw [Bool.not_eq_false] at hblank
  rw [inMemberPath_of_isBlank hblank] at h
  cases h

theorem inMemberPath_of_inName {c : Char} (h : inName c) : inMemberPath c := by
  rw [inName] at h
  rw [inMemberPath, h]
  rfl

theorem isBlank_of_startsName {c : Char} (h : startsName c) : isBlank c = false :=
  isBlank_of_inMemberPath (inMemberPath_of_inName (inName_of_startsName h))

/-! ## A value that reads members -/

/-- Whether a text can be the name of a variable. -/
def IsVariable (name : List Char) : Prop :=
  ∃ c cs, name = c :: cs ∧ startsName c ∧ ∀ d ∈ cs, inName d

theorem IsVariable.inName {name : List Char} (h : IsVariable name) : ∀ c ∈ name, inName c := by
  obtain ⟨c, cs, rfl, hfirst, hbehind⟩ := h
  exact List.forall_mem_cons.mpr ⟨inName_of_startsName hfirst, hbehind⟩

/-- A value reads members of a variable if it is nothing else, white space around it apart. -/
structure ReadsMember (name path value : List Char) : Prop where
  isVariable : IsVariable name
  path_ne_nil : path ≠ []
  inPath : ∀ c ∈ path, inMemberPath c
  text : ∃ before behind, (∀ c ∈ before, isBlank c) ∧ (∀ c ∈ behind, isBlank c) ∧
    value = before ++ (name ++ '.' :: (path ++ behind))

/-- What is written behind a variable that gets the parsed response body. -/
structure BodyParse where
  beforeSign : List Char
  behindSign : List Char
  beforeBody : List Char
  behindBody : List Char

namespace BodyParse

def text (p : BodyParse) : List Char :=
  p.beforeSign ++ '=' :: (p.behindSign ++ ("JSON.parse(".toList ++ (p.beforeBody ++
    ("responseBody".toList ++ (p.behindBody ++ [')'])))))

structure Readable (p : BodyParse) : Prop where
  beforeSign : ∀ c ∈ p.beforeSign, isBlank c
  behindSign : ∀ c ∈ p.behindSign, isBlank c
  beforeBody : ∀ c ∈ p.beforeBody, isBlank c
  behindBody : ∀ c ∈ p.behindBody, isBlank c

theorem text_append (p : BodyParse) (rest : List Char) : p.text ++ rest =
    p.beforeSign ++ '=' :: (p.behindSign ++ ("JSON.parse(".toList ++ (p.beforeBody ++
      ("responseBody".toList ++ (p.behindBody ++ ')' :: rest))))) := by
  rw [text]
  simp only [List.append_assoc, List.cons_append, List.nil_append]

end BodyParse

end Script

end LoadScenario
