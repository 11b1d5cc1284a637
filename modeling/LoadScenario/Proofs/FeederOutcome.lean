import LoadScenario.Proofs.FeederResolution
import LoadScenario.Simulation.Basic

/-!
# What building a feeder comes to

The passes over the values end in one of two ways, and the reference graph says beforehand in which.
Without a cycle some pass up to the last one finds nothing to replace, and every value is then the
expansion of its declaration. With a cycle no pass ever finds that, and when the passes are used up,
the keys with names left are those that lead into a cycle. Neither the order of the variables nor
what the passes do in between has a say in the answer.
-/

namespace LoadScenario

open Text

namespace Environment

open Classical in
/-- The keys that lead into a cycle, in the order in which they come first. -/
noncomputable def keysIntoCycles (e : Environment) : List String :=
  e.enabledKeys.filter fun k => decide (e.ReachesCycle k)

theorem keysIntoCycles_eq_nil {e : Environment} (h : ¬ e.Cyclic) : e.keysIntoCycles = [] := by
  classical
  rw [keysIntoCycles, List.filter_eq_nil_iff]
  intro k _ hk
  exact h (decide_eq_true_iff.mp hk).cyclic

end Environment

namespace Feeder

open Environment

section

variable {e : Environment} {p : Nat} {values : OrderedMap}

/-- Once the passes have been as many as the variables, what is left leads into cycles. -/
theorem Progress.unsettled_eq (h : Progress e p values) (hp : e.enabledKeys.length ≤ p) :
    unsettled values = e.keysIntoCycles := by
  classical
  rw [keysIntoCycles, ← h.keys, OrderedMap.keys, keysOf, List.filter_map, unsettled]
  refine congrArg _ (List.filter_congr ?_)
  rintro ⟨key, value⟩ hmem
  rw [Function.comp, Bool.eq_iff_iff, decide_eq_true_iff]
  constructor
  · exact h.reachesCycle_of_refersTo hp hmem
  · exact h.refersTo_of_reachesCycle hmem

theorem Progress.unsettled_ne_nil (h : Progress e p values) (hc : e.Cyclic) :
    unsettled values ≠ [] := by
  obtain ⟨k, hk, hreach⟩ := hc.exists_reachesCycle
  rw [← h.keys, OrderedMap.keys, keysOf, List.mem_map] at hk
  obtain ⟨⟨key, value⟩, hmem, rfl⟩ := hk
  have hleft : key ∈ unsettled values :=
    List.mem_map.mpr ⟨(key, value), List.mem_filter.mpr
      ⟨hmem, h.refersTo_of_reachesCycle hmem hreach⟩, rfl⟩
  exact List.ne_nil_of_mem hleft

/-- Without a cycle the passes come to an end. -/
theorem resolve_eq_ok (hc : ¬ e.Cyclic) {bound : Nat} (h : Progress e p values)
    (hp : p ≤ e.enabledKeys.length) (hbound : e.enabledKeys.length < p + bound) :
    ∃ f q, resolve bound values = .ok f ∧ Progress e q f.values ∧
      unsettled f.values = [] := by
  -- The passes made and the passes left are together more than the variables.
  induction bound generalizing p values with
  | zero => omega
  | succ bound ih =>
      rw [resolve]
      by_cases hsettled : (unsettled values).isEmpty
      · rw [if_pos hsettled]
        exact ⟨⟨values⟩, p, rfl, h, List.isEmpty_iff.mp hsettled⟩
      · rw [if_neg hsettled]
        have hlt : p < e.enabledKeys.length := by
          by_contra hge
          rw [h.unsettled_eq (by omega), keysIntoCycles_eq_nil hc] at hsettled
          exact hsettled rfl
        exact ih h.pass (by omega) (by omega)

/-- With a cycle the passes are used up. -/
theorem resolve_eq_error (hc : e.Cyclic) {bound : Nat} (h : Progress e p values)
    (hbound : e.enabledKeys.length ≤ p + bound) :
    resolve bound values = .error e.keysIntoCycles := by
  induction bound generalizing p values with
  | zero => rw [resolve, h.unsettled_eq hbound]
  | succ bound ih =>
      rw [resolve, if_neg]
      · exact ih h.pass (by omega)
      · rw [List.isEmpty_iff]
        exact h.unsettled_ne_nil hc

/-- A value without names of variables is the expansion of its declaration. -/
theorem Progress.expands (h : Progress e p values) (hsettled : unsettled values = [])
    {key value : String} {source : List Part} (hvalue : values.get? key = some value)
    (hsource : e.Declares key source) : e.Expands source value.toList := by
  have hmem : (key, value) ∈ values.entries := OrderedMap.mem_of_get? hvalue
  obtain ⟨parts, hclear, rfl, htraces⟩ := h.parts hmem
  obtain ⟨source', hsource', hexpands⟩ := htraces.expands
  obtain rfl := hsource'.unique hsource
  rw [String.toList_ofList]
  refine hexpands _ (.of_settled ?_)
  intro n hn hknown
  have hleft : key ∈ unsettled values :=
    List.mem_map.mpr ⟨_, List.mem_filter.mpr
      ⟨hmem, (refersTo_iff h hclear).mpr ⟨n, hn, hknown⟩⟩, rfl⟩
  rw [hsettled] at hleft
  cases hleft

end

/-- For an environment whose enabled values are made of plain text and placeholders: if no variable
leads back to itself, the feeder is built, its keys are the enabled keys, and the value of each is
the expansion of its declaration. Otherwise building it fails, and the failure names the keys that
lead into a cycle. -/
theorem build_expands_or_names_cycles (e : Environment) (h : e.Plain) :
    (¬ e.Cyclic →
      ∃ f, build e = .ok f ∧ f.toList.map Prod.fst = e.enabledKeys ∧
        ∀ key parts, e.Declares key parts →
          ∀ t, f.get? key = some t ↔ e.Expands parts t.toList) ∧
    (e.Cyclic →
      build e = .error e.keysIntoCycles ∧
        ∀ (s : Simulation) (c : Collection), s.environment = e → s.stage = .loaded c →
          ∃ failure, s.deriveFeeder = (.error failure, s) ∧
            failure.message =
              "Cyclic environment variables: " ++ ", ".intercalate e.keysIntoCycles) := by
  have hstart := Progress.declared h
  have hsize : (declared e).size = e.enabledKeys.length := by
    rw [← hstart.keys, OrderedMap.keys, keysOf, List.length_map]
    rfl
  constructor
  · intro hc
    have hbound : e.enabledKeys.length < 0 + ((declared e).size + 1) := by omega
    obtain ⟨f, q, hf, hprogress, hsettled⟩ :=
      resolve_eq_ok hc hstart (Nat.zero_le _) hbound
    refine ⟨f, hf, hprogress.keys, ?_⟩
    intro key parts hparts t
    constructor
    · exact fun ht => hprogress.expands hsettled ht hparts
    · intro ht
      cases hvalue : f.get? key with
      | none =>
          have hno := OrderedMap.get?_eq_none_iff.mp hvalue
          rw [hprogress.keys] at hno
          exact absurd hparts.mem hno
      | some value =>
          have heq := (hprogress.expands hsettled hvalue hparts).unique ht
          rw [String.toList_inj.mp heq]
  · intro hc
    have hbuild : build e = .error e.keysIntoCycles :=
      resolve_eq_error hc hstart (by omega)
    refine ⟨hbuild, ?_⟩
    intro s c henv hstage
    refine ⟨.cyclicVariables e.keysIntoCycles, ?_, rfl⟩
    rw [Simulation.deriveFeeder, hstage, henv]
    simp only [hbuild]

def chained : Environment :=
  [⟨"a", "x\x7b\x7bb\x7d\x7d\x7b\x7bq\x7d\x7d", true⟩, ⟨"b", "v", true⟩]

def entangled : Environment :=
  [⟨"c", "\x7b\x7ba\x7d\x7d", true⟩, ⟨"a", "x\x7b\x7bb\x7d\x7d", true⟩, ⟨"b", "\x7b\x7b", false⟩,
    ⟨"b", "y\x7b\x7ba\x7d\x7d", true⟩, ⟨"d", "\x7b\x7bq\x7d\x7d", true⟩]

theorem chained_plain : chained.Plain := by
  intro v hv _
  rcases List.mem_cons.mp hv with rfl | hv
  · exact ⟨[.char 'x', .name ['b'], .name ['q']], by simp [Part.Clear], rfl⟩
  · rcases List.mem_singleton.mp hv with rfl
    exact ⟨[.char 'v'], by simp [Part.Clear], rfl⟩

theorem entangled_plain : entangled.Plain := by
  intro v hv henabled
  simp only [entangled, List.mem_cons, List.not_mem_nil, or_false] at hv
  rcases hv with rfl | rfl | rfl | rfl | rfl
  · exact ⟨[.name ['a']], by simp [Part.Clear], rfl⟩
  · exact ⟨[.char 'x', .name ['b']], by simp [Part.Clear], rfl⟩
  · cases henabled
  · exact ⟨[.char 'y', .name ['a']], by simp [Part.Clear], rfl⟩
  · exact ⟨[.name ['q']], by simp [Part.Clear], rfl⟩

/-- Both ways: a chain, and two variables in a cycle to which a third leads. -/
theorem build_chained_and_entangled :
    (chained.Plain ∧ ¬ chained.Cyclic ∧
      ∃ f, build chained = .ok f ∧ f.toList = [("a", "xv$\x7bq\x7d"), ("b", "v")] ∧
        ∀ key parts, chained.Declares key parts →
          ∀ t, f.get? key = some t ↔ chained.Expands parts t.toList) ∧
    (entangled.Plain ∧ entangled.Cyclic ∧
      build entangled = .error ["c", "a", "b"] ∧ entangled.keysIntoCycles = ["c", "a", "b"]) := by
  have hchained := build_expands_or_names_cycles chained chained_plain
  have hentangled := build_expands_or_names_cycles entangled entangled_plain
  have hok : (build chained).map toList = .ok [("a", "xv$\x7bq\x7d"), ("b", "v")] := rfl
  have herror : build entangled = .error ["c", "a", "b"] := rfl
  have hopen : ¬ chained.Cyclic := by
    intro hc
    rw [(hchained.2 hc).1] at hok
    cases hok
  have hclosed : entangled.Cyclic := by
    by_contra hc
    obtain ⟨f, hf, -⟩ := hentangled.1 hc
    rw [herror] at hf
    cases hf
  obtain ⟨f, hf, -, hexpands⟩ := hchained.1 hopen
  refine ⟨⟨chained_plain, hopen, f, hf, ?_, hexpands⟩, entangled_plain, hclosed, herror, ?_⟩
  · rw [hf] at hok
    exact Except.ok.inj hok
  · rw [(hentangled.2 hclosed).1] at herror
    exact Except.error.inj herror

end Feeder

end LoadScenario
