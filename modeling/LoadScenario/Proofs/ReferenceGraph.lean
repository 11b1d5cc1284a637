import LoadScenario.Environment
import LoadScenario.Proofs.MarkedText
import Mathlib.Data.List.Chain
import Mathlib.Data.List.Nodup
import Mathlib.Data.List.Perm.Subperm
import Mathlib.Logic.Relation

/-!
# Which variable refers to which

The variables of an environment are the nodes of a graph, and a variable has an edge to each
variable that a placeholder in its value names. What a value stands for is read off this graph: each
name is replaced by what the value behind it stands for, all the way down. This is said here without
any order of replacing, as a relation `Expands` between a value and its expansion. A value has one
expansion at most. It has none if following its names leads into a cycle, and of that the finite
graph leaves only one sign: a walk with at least as many edges as there are variables.
-/

namespace LoadScenario

open Text Relation

namespace Environment

/-- The keys of the enabled variables, each once, in the order in which they come first. -/
def enabledKeys (e : Environment) : List String :=
  ((e.filter (·.enabled)).map (·.key)).eraseDups

/-- The value of a key: that of the last enabled variable with it. -/
def lastValue? (e : Environment) (key : String) : Option String :=
  ((e.filter fun v => v.enabled && v.key = key).getLast?).map (·.value)

/-- Every enabled value is made of plain text and placeholders. -/
def Plain (e : Environment) : Prop :=
  ∀ v ∈ e, v.enabled = true →
    ∃ parts, (∀ p ∈ parts, p.Clear) ∧ v.value = String.ofList (written placeholder parts)

/-- The parts of which the value of a key is made. -/
structure Declares (e : Environment) (key : String) (parts : List Part) : Prop where
  clear : ∀ p ∈ parts, p.Clear
  value : e.lastValue? key = some (String.ofList (written placeholder parts))

/-- An edge of the graph: the value of the first variable has a placeholder for the second. -/
def RefersTo (e : Environment) (k n : String) : Prop :=
  n ∈ e.enabledKeys ∧ ∃ parts, e.Declares k parts ∧ Part.name n.toList ∈ parts

/-- Some variable leads back to itself. -/
def Cyclic (e : Environment) : Prop := ∃ k, TransGen e.RefersTo k k

/-- Following the references of a variable can lead into a cycle. -/
def ReachesCycle (e : Environment) (k : String) : Prop :=
  ∃ c, ReflTransGen e.RefersTo k c ∧ TransGen e.RefersTo c c

/-- What parts stand for once every name is replaced by what its value stands for. A name that is
no variable stays as a reference. -/
inductive Expands (e : Environment) : List Part → List Char → Prop
  | nil : Expands e [] []
  | char {c : Char} {parts : List Part} {t : List Char} :
      Expands e parts t → Expands e (.char c :: parts) (c :: t)
  | unknown {n : List Char} {parts : List Part} {t : List Char} :
      String.ofList n ∉ e.enabledKeys → Expands e parts t →
      Expands e (.name n :: parts) (reference.around n ++ t)
  | known {n : List Char} {inner parts : List Part} {s t : List Char} :
      e.Declares (String.ofList n) inner → Expands e inner s → Expands e parts t →
      Expands e (.name n :: parts) (s ++ t)

variable {e : Environment}

/-! ## Keys and values -/

theorem mem_enabledKeys {key : String} :
    key ∈ e.enabledKeys ↔ ∃ v ∈ e, v.enabled = true ∧ v.key = key := by
  simp [enabledKeys, and_assoc]

theorem lastValue?_eq_some {key value : String} (h : e.lastValue? key = some value) :
    ∃ v ∈ e, v.enabled = true ∧ v.key = key ∧ v.value = value := by
  obtain ⟨v, hv, rfl⟩ := Option.map_eq_some_iff.mp h
  have hmem := List.mem_of_getLast? hv
  rw [List.mem_filter, Bool.and_eq_true, decide_eq_true_eq] at hmem
  exact ⟨v, hmem.1, hmem.2.1, hmem.2.2, rfl⟩

theorem lastValue?_isSome {key : String} (h : key ∈ e.enabledKeys) :
    ∃ value, e.lastValue? key = some value := by
  obtain ⟨v, hv, henabled, hkey⟩ := mem_enabledKeys.mp h
  have hmem : v ∈ e.filter fun v => v.enabled && v.key = key := by
    rw [List.mem_filter, Bool.and_eq_true, decide_eq_true_eq]
    exact ⟨hv, henabled, hkey⟩
  cases hlast : (e.filter fun v => v.enabled && v.key = key).getLast? with
  | none =>
      rw [List.getLast?_eq_none_iff.mp hlast] at hmem
      cases hmem
  | some w => exact ⟨w.value, by rw [lastValue?, hlast]; rfl⟩

theorem Declares.mem {key : String} {parts : List Part} (h : e.Declares key parts) :
    key ∈ e.enabledKeys := by
  obtain ⟨v, hv, henabled, hkey, -⟩ := lastValue?_eq_some h.value
  exact mem_enabledKeys.mpr ⟨v, hv, henabled, hkey⟩

theorem Declares.unique {key : String} {parts parts' : List Part} (h : e.Declares key parts)
    (h' : e.Declares key parts') : parts = parts' := by
  have hvalue := h.value.symm.trans h'.value
  exact Marks.eq_of_written_eq placeholder_braced h.clear h'.clear
    (String.ofList_injective (Option.some.inj hvalue))

theorem Plain.declares (h : e.Plain) {key : String} (hkey : key ∈ e.enabledKeys) :
    ∃ parts, e.Declares key parts := by
  obtain ⟨value, hvalue⟩ := lastValue?_isSome hkey
  obtain ⟨v, hv, henabled, -, rfl⟩ := lastValue?_eq_some hvalue
  obtain ⟨parts, hclear, hwritten⟩ := h v hv henabled
  exact ⟨parts, hclear, by rw [hvalue, hwritten]⟩

/-! ## Cycles and long walks -/

/-- A walk of a given number of edges. -/
inductive Walk (e : Environment) : Nat → String → String → Prop
  | edge {k n : String} : e.RefersTo k n → Walk e 1 k n
  | trans {i j : Nat} {k l n : String} : Walk e i k l → Walk e j l n → Walk e (i + j) k n

theorem RefersTo.mem_left {k n : String} (h : e.RefersTo k n) : k ∈ e.enabledKeys := by
  obtain ⟨-, parts, hparts, -⟩ := h
  exact hparts.mem

theorem ReachesCycle.next {k : String} (h : e.ReachesCycle k) :
    ∃ n, e.RefersTo k n ∧ e.ReachesCycle n := by
  obtain ⟨c, hreach, hcycle⟩ := h
  rcases ReflTransGen.cases_head hreach with rfl | ⟨n, hedge, hrest⟩
  · obtain ⟨n, hedge, hback⟩ := TransGen.head'_iff.mp hcycle
    exact ⟨n, hedge, k, hback, hcycle⟩
  · exact ⟨n, hedge, c, hrest, hcycle⟩

theorem ReachesCycle.mem {k : String} (h : e.ReachesCycle k) : k ∈ e.enabledKeys := by
  obtain ⟨n, hedge, -⟩ := h.next
  exact hedge.mem_left

theorem Cyclic.exists_reachesCycle (h : e.Cyclic) : ∃ k ∈ e.enabledKeys, e.ReachesCycle k := by
  obtain ⟨k, hk⟩ := h
  have hreach : e.ReachesCycle k := ⟨k, .refl, hk⟩
  exact ⟨k, hreach.mem, hreach⟩

theorem ReachesCycle.cyclic {k : String} (h : e.ReachesCycle k) : e.Cyclic := by
  obtain ⟨c, -, hcycle⟩ := h
  exact ⟨c, hcycle⟩

/-- The variables along a walk behind its start. -/
theorem Walk.chain {i : Nat} {k n : String} (h : Walk e i k n) :
    ∃ l : List String, l.length = i ∧ (k :: l).IsChain e.RefersTo ∧ (k :: l).getLast? = some n ∧
      ∀ x ∈ l, x ∈ e.enabledKeys := by
  induction h with
  | @edge k n hedge =>
      refine ⟨[n], rfl, ?_, rfl, ?_⟩
      · rw [List.isChain_pair]
        exact hedge
      · intro x hx
        rw [List.mem_singleton.mp hx]
        exact hedge.1
  | @trans i j k l n _ _ ih ih' =>
      obtain ⟨before, hlen, hchain, hlast, hmem⟩ := ih
      obtain ⟨behind, hlen', hchain', hlast', hmem'⟩ := ih'
      refine ⟨before ++ behind, by rw [List.length_append, hlen, hlen'], ?_, ?_, ?_⟩
      · rw [← List.cons_append]
        refine hchain.append (hchain'.tail) ?_
        intro x hx y hy
        rw [hlast] at hx
        obtain rfl : l = x := Option.some.inj hx
        exact hchain'.rel_head? hy
      · rw [← List.cons_append, List.getLast?_append]
        cases behind with
        | nil =>
            obtain rfl : l = n := Option.some.inj hlast'
            simpa using hlast
        | cons x behind =>
            rw [List.getLast?_cons_cons] at hlast'
            rw [hlast']
            rfl
      · intro x hx
        rcases List.mem_append.mp hx with h | h
        · exact hmem x h
        · exact hmem' x h

/-- A walk that is as long as there are variables comes twice through one of them. -/
theorem Walk.reachesCycle {i : Nat} {k n : String} (h : Walk e i k n)
    (hi : e.enabledKeys.length ≤ i) (hk : k ∈ e.enabledKeys) : e.ReachesCycle k := by
  obtain ⟨l, hlen, hchain, -, hmem⟩ := h.chain
  have hpairs : (k :: l).Pairwise (TransGen e.RefersTo) :=
    (hchain.imp fun _ _ hedge => TransGen.single hedge).pairwise
  -- The walk stands at more places than there are variables.
  have htwice : ¬ (k :: l).Nodup := by
    intro hnodup
    have hsub : k :: l ⊆ e.enabledKeys := List.cons_subset.mpr ⟨hk, hmem⟩
    have hle := (List.subperm_of_subset hnodup hsub).length_le
    rw [List.length_cons] at hle
    omega
  rw [List.nodup_iff_sublist, not_forall_not] at htwice
  obtain ⟨c, hc⟩ := htwice
  have hcycle : TransGen e.RefersTo c c := by
    have h := hpairs.sublist hc
    rw [List.pairwise_pair] at h
    exact h
  rcases List.mem_cons.mp (hc.subset List.mem_cons_self) with rfl | hcl
  · exact ⟨c, .refl, hcycle⟩
  · exact ⟨c, (List.rel_of_pairwise_cons hpairs hcl).to_reflTransGen, hcycle⟩

/-! ## Expansions -/

theorem Expands.append {parts parts' : List Part} {s t : List Char} (h : Expands e parts s)
    (h' : Expands e parts' t) : Expands e (parts ++ parts') (s ++ t) := by
  induction h with
  | nil => exact h'
  | char _ ih => exact .char ih
  | unknown hn _ ih =>
      rw [List.append_assoc]
      exact .unknown hn ih
  | known hd hinner _ _ ih =>
      rw [List.append_assoc]
      exact .known hd hinner ih

theorem Expands.split {parts parts' : List Part} {t : List Char}
    (h : Expands e (parts ++ parts') t) :
    ∃ s s', t = s ++ s' ∧ Expands e parts s ∧ Expands e parts' s' := by
  induction parts generalizing t with
  | nil => exact ⟨[], t, rfl, .nil, h⟩
  | cons p parts ih =>
      cases h with
      | char hrest =>
          obtain ⟨s, s', rfl, hs, hs'⟩ := ih hrest
          exact ⟨_, s', rfl, .char hs, hs'⟩
      | unknown hn hrest =>
          obtain ⟨s, s', rfl, hs, hs'⟩ := ih hrest
          exact ⟨_, s', (List.append_assoc ..).symm, .unknown hn hs, hs'⟩
      | known hd hinner hrest =>
          obtain ⟨s, s', rfl, hs, hs'⟩ := ih hrest
          exact ⟨_, s', (List.append_assoc ..).symm, .known hd hinner hs, hs'⟩

/-- Parts have one expansion at most. -/
theorem Expands.unique {parts : List Part} {s t : List Char} (h : Expands e parts s)
    (h' : Expands e parts t) : s = t := by
  induction h generalizing t with
  | nil =>
      cases h'
      rfl
  | char _ ih =>
      cases h' with
      | char hrest => rw [ih hrest]
  | unknown hn _ ih =>
      cases h' with
      | unknown _ hrest => rw [ih hrest]
      | known hd _ _ => exact absurd hd.mem hn
  | known hd _ _ ihinner ih =>
      cases h' with
      | unknown hn _ => exact absurd hd.mem hn
      | known hd' hinner hrest =>
          obtain rfl := hd'.unique hd
          rw [ihinner hinner, ih hrest]

/-- Parts without names of variables stand for themselves. -/
theorem Expands.of_settled {parts : List Part}
    (h : ∀ n, Part.name n ∈ parts → String.ofList n ∉ e.enabledKeys) :
    Expands e parts (written reference parts) := by
  induction parts with
  | nil => exact .nil
  | cons p parts ih =>
      have hrest := ih fun n hn => h n (List.mem_cons_of_mem p hn)
      rw [written_cons]
      cases p with
      | char c => exact .char hrest
      | name n => exact .unknown (h n List.mem_cons_self) hrest

end Environment

end LoadScenario
