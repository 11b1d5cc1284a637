import LoadScenario.Proofs.NameSearch
import LoadScenario.Proofs.PassBound
import Mathlib.Logic.Relation

/-!
# What a feeder that has been built is known to be

Values are arbitrary text here, so that nothing can be said about which values a feeder ends up
with, except that the passes have come to rest. This is enough for what is relied on where a feeder
is used: it has the enabled keys, and no reference to one of them is left. Which references a text
has is said without the search that the passes make, by `Marks.Finds`.

Variables that are not enabled have no part in this. They can be put in and taken out anywhere, and
the answer stays the same, whether it is a feeder or a failure.
-/

namespace LoadScenario

open Text

namespace Environment

/-- The second environment has one variable more than the first, and this is not enabled. -/
def InsertsDisabled (e e' : Environment) : Prop :=
  ∃ before v after, Variable.enabled v = false ∧ e = before ++ after ∧ e' = before ++ v :: after

theorem InsertsDisabled.filter_enabled {e e' : Environment} (h : e.InsertsDisabled e') :
    e.filter (·.enabled) = e'.filter (·.enabled) := by
  obtain ⟨before, v, after, hv, rfl, rfl⟩ := h
  have hout : ¬ v.enabled = true := Bool.eq_false_iff.mp hv
  rw [List.filter_append, List.filter_append, List.filter_cons_of_neg hout]

/-- However disabled variables are put in and taken out, the enabled ones stay. -/
theorem filter_enabled_of_eqvGen {e e' : Environment}
    (h : Relation.EqvGen InsertsDisabled e e') : e.filter (·.enabled) = e'.filter (·.enabled) := by
  induction h with
  | rel e e' h => exact h.filter_enabled
  | refl e => rfl
  | symm e e' _ ih => exact ih.symm
  | trans e e' e'' _ _ ih ih' => exact ih.trans ih'

end Environment

theorem mem_references_iff {value name : String} :
    name ∈ references value ↔ reference.Finds value.toList name.toList := by
  have hopening : '\n' ∉ reference.opening := by decide
  rw [Marks.finds_iff hopening, references, List.mem_map]
  constructor
  · rintro ⟨found, hfound, rfl⟩
    rwa [String.toList_ofList]
  · exact fun h => ⟨_, h, String.ofList_toList⟩

namespace Feeder

open Environment

variable {e e' : Environment} {f : Feeder}

/-- A feeder is only ever built from values that have come to rest. -/
theorem exists_settled_of_build (h : build e = .ok f) :
    ∃ k, f.values = valuesAfter e k ∧ unsettled f.values = [] := by
  by_contra hno
  rw [build_of_not_settled] at h
  · cases h
  · intro k hk hsettled
    rw [build_of_settled hk hsettled] at h
    cases h
    exact hno ⟨k, rfl, hsettled⟩

theorem build_eq_of_eqvGen (h : Relation.EqvGen InsertsDisabled e e') : build e = build e' := by
  have hdeclared : declared e = declared e' := by
    rw [declared, declared, filter_enabled_of_eqvGen h]
  rw [build, build, hdeclared]

/-- Whatever the values, a feeder that is built has the keys of the enabled variables, each where it
first comes. No value has a reference to one of them, a further pass replaces nothing, and the same
feeder is built with other disabled variables or without any. -/
theorem build_settles (h : build e = .ok f) :
    f.toList.map Prod.fst = e.enabledKeys ∧
    (∀ key value, f.get? key = some value →
      ∀ name, reference.Finds value.toList name → String.ofList name ∉ e.enabledKeys) ∧
    (passReplaces f.values = false ∧ pass f.values = f.values) ∧
    ∀ e', Relation.EqvGen InsertsDisabled e e' → build e' = .ok f := by
  obtain ⟨k, hvalues, hsettled⟩ := exists_settled_of_build h
  have hkeys : f.values.keys = e.enabledKeys := by rw [hvalues, keys_valuesAfter]
  refine ⟨hkeys, fun key value hvalue name hname hknown => ?_, ?_, fun e' hsame => ?_⟩
  · have hreference : String.ofList name ∈ references value := by
      rwa [mem_references_iff, String.toList_ofList]
    rw [← hkeys] at hknown
    have hleft : key ∈ unsettled f.values :=
      mem_unsettled.mpr ⟨value, hvalue, _, hreference, hknown⟩
    rw [hsettled] at hleft
    cases hleft
  · exact ⟨passReplaces_eq_false_iff.mpr hsettled, pass_of_unsettled hsettled⟩
  · rw [← build_eq_of_eqvGen hsame, h]

/-- A value that becomes a reference when another is replaced, with one to no variable behind it,
and one that is not closed on its line. The variable that refers back to it is not enabled. -/
def seamed (disabled : Environment) : Environment :=
  [⟨"x", "", true⟩] ++ disabled ++
    [⟨"d", "$", true⟩, ⟨"x", "\x7b\x7bd\x7d\x7d\x7bd\x7d $\x7bno\x7d $\x7bd\nd\x7d", true⟩]

theorem build_seamed :
    ∃ f, build (seamed [⟨"d", "\x7b\x7bx\x7d\x7d", false⟩]) = .ok f ∧
      f.toList = [("x", "$ $\x7bno\x7d $\x7bd\nd\x7d"), ("d", "$")] ∧
      (∀ name, reference.Finds "$ $\x7bno\x7d $\x7bd\nd\x7d".toList name →
        String.ofList name ∉ ["x", "d"]) ∧
      pass f.values = f.values ∧ build (seamed []) = .ok f := by
  have hok : (build (seamed [⟨"d", "\x7b\x7bx\x7d\x7d", false⟩])).map toList =
      .ok [("x", "$ $\x7bno\x7d $\x7bd\nd\x7d"), ("d", "$")] := by decide +kernel
  obtain ⟨f, hf, hentries⟩ : ∃ f, build (seamed [⟨"d", "\x7b\x7bx\x7d\x7d", false⟩]) = .ok f ∧
      f.toList = [("x", "$ $\x7bno\x7d $\x7bd\nd\x7d"), ("d", "$")] := by
    cases hf : build (seamed [⟨"d", "\x7b\x7bx\x7d\x7d", false⟩]) with
    | error names =>
        rw [hf] at hok
        cases hok
    | ok f =>
        rw [hf] at hok
        exact ⟨f, rfl, Except.ok.inj hok⟩
  obtain ⟨-, hnone, ⟨-, hpass⟩, hsame⟩ := build_settles hf
  have hentry : ("x", "$ $\x7bno\x7d $\x7bd\nd\x7d") ∈ f.toList := by
    rw [hentries]
    exact List.mem_cons_self
  have hvalue := OrderedMap.get?_of_mem hentry
  have hinserted : InsertsDisabled (seamed []) (seamed [⟨"d", "\x7b\x7bx\x7d\x7d", false⟩]) :=
    ⟨[⟨"x", "", true⟩], _, _, rfl, rfl, rfl⟩
  exact ⟨f, hf, hentries, hnone "x" _ hvalue, hpass, hsame _ (.symm _ _ (.rel _ _ hinserted))⟩

end Feeder

end LoadScenario
