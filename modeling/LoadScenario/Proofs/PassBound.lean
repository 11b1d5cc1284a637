import LoadScenario.Proofs.FeederOutcome
import Mathlib.Logic.Function.Iterate

/-!
# How many passes a feeder may take

The bound on the passes is the number of variables and one more, and where values are plain text
and placeholders this is always enough. It is not where a replaced reference makes a new one
together with the text around it. Then the value of one variable can be peeled layer by layer, one
layer in each pass, and the number of layers has nothing to do with the number of variables. So the
bound is a bound: `build` gives the values before the first pass that replaces nothing if one of the
allowed passes is such a pass, and it fails otherwise.

A pass finds out on the way whether it replaces anything, and what it has replaced so far can bring
about or take away references in the values that are still to come. All the same it is known
beforehand: a pass replaces something if and only if some value refers to a variable when it begins,
because up to the first such value nothing has changed.
-/

namespace LoadScenario.Feeder

open Text Environment

/-! ## A pass that replaces nothing -/

/-- Whether a reference is replaced on the way through some variables. -/
def replacesIn : List String → OrderedMap → Bool
  | [], _ => false
  | key :: keys, values =>
      (values.get? key).any (refersTo values) || replacesIn keys (resolveKey values key)

/-- Whether a pass replaces a reference in the value of some variable when it comes to it. -/
def passReplaces (values : OrderedMap) : Bool := replacesIn values.keys values

theorem substitute_of_refersTo_eq_false {values : OrderedMap} {value : String}
    (h : refersTo values value = false) : substitute values value = value := by
  rw [refersTo, List.any_eq_false] at h
  rw [substitute, Marks.replaceNames_of_around, String.ofList_toList]
  intro n hn
  have hunknown := h _ (List.mem_map_of_mem hn)
  rw [OrderedMap.contains, List.contains_iff_mem] at hunknown
  rw [OrderedMap.get?_eq_none_iff.mpr hunknown]

theorem resolveKey_of_any_eq_false {values : OrderedMap} {key : String}
    (h : (values.get? key).any (refersTo values) = false) : resolveKey values key = values := by
  rw [resolveKey]
  cases hvalue : values.get? key with
  | none => rfl
  | some value =>
      rw [hvalue] at h
      simp only []
      rw [substitute_of_refersTo_eq_false h, OrderedMap.insert_of_get? hvalue]

theorem foldl_resolveKey_of_replacesIn {keys : List String} {values : OrderedMap}
    (h : replacesIn keys values = false) : keys.foldl resolveKey values = values := by
  induction keys with
  | nil => rfl
  | cons key keys ih =>
      rw [replacesIn, Bool.or_eq_false_iff] at h
      rw [resolveKey_of_any_eq_false h.1] at h
      rw [List.foldl_cons, resolveKey_of_any_eq_false h.1, ih h.2]

theorem replacesIn_eq_false_iff {keys : List String} {values : OrderedMap} :
    replacesIn keys values = false ↔
      ∀ key ∈ keys, (values.get? key).any (refersTo values) = false := by
  induction keys with
  | nil => simp [replacesIn]
  | cons key keys ih =>
      rw [replacesIn, Bool.or_eq_false_iff, List.forall_mem_cons]
      refine and_congr_right fun hkey => ?_
      rw [resolveKey_of_any_eq_false hkey, ih]

/-- It is known before a pass whether it replaces anything. -/
theorem passReplaces_eq_false_iff {values : OrderedMap} :
    passReplaces values = false ↔ unsettled values = [] := by
  rw [passReplaces, replacesIn_eq_false_iff, unsettled, List.map_eq_nil_iff,
    List.filter_eq_nil_iff]
  constructor
  · rintro h ⟨key, value⟩ hmem
    have hkey : key ∈ values.keys := List.mem_map.mpr ⟨_, hmem, rfl⟩
    have hnone := h key hkey
    rw [OrderedMap.get?_of_mem hmem] at hnone
    simpa using hnone
  · intro h key _
    cases hvalue : values.get? key with
    | none => rfl
    | some value => simpa using h _ (OrderedMap.mem_of_get? hvalue)

theorem pass_of_unsettled {values : OrderedMap} (h : unsettled values = []) :
    pass values = values :=
  foldl_resolveKey_of_replacesIn (passReplaces_eq_false_iff.mpr h)

/-! ## Passes that are allowed -/

theorem resolve_of_settled {bound k : Nat} {values : OrderedMap} (hk : k < bound)
    (h : unsettled (pass^[k] values) = []) : resolve bound values = .ok ⟨pass^[k] values⟩ := by
  induction bound generalizing k values with
  | zero => omega
  | succ bound ih =>
      rw [resolve]
      by_cases hsettled : unsettled values = []
      · have hfixed : pass^[k] values = values :=
          Function.iterate_fixed (pass_of_unsettled hsettled) k
        rw [if_pos (List.isEmpty_iff.mpr hsettled), hfixed]
      · rw [if_neg (by rwa [List.isEmpty_iff])]
        cases k with
        | zero => exact absurd h hsettled
        | succ k => exact ih (by omega) h

theorem resolve_of_not_settled {bound : Nat} {values : OrderedMap}
    (h : ∀ k < bound, unsettled (pass^[k] values) ≠ []) :
    resolve bound values = .error (unsettled (pass^[bound] values)) := by
  induction bound generalizing values with
  | zero => rfl
  | succ bound ih =>
      have hfirst : unsettled values ≠ [] := h 0 (by omega)
      rw [resolve, if_neg (by rwa [List.isEmpty_iff])]
      exact ih fun k hk => h (k + 1) (by omega)

/-- The values on which the passes come to rest, if ever, do not depend on where they are read. -/
theorem iterate_eq_of_settled {j k : Nat} {values : OrderedMap}
    (hj : unsettled (pass^[j] values) = []) (hk : unsettled (pass^[k] values) = []) :
    pass^[j] values = pass^[k] values := by
  have hrest : ∀ {i l : Nat}, i ≤ l → unsettled (pass^[i] values) = [] →
      pass^[l] values = pass^[i] values := by
    intro i l hle hi
    obtain ⟨d, rfl⟩ : ∃ d, l = d + i := ⟨l - i, by omega⟩
    rw [Function.iterate_add_apply]
    exact Function.iterate_fixed (pass_of_unsettled hi) d
  rcases Nat.le_total j k with hle | hle
  · exact (hrest hle hj).symm
  · exact hrest hle hk

/-! ## What the bound comes to -/

/-- The values of the variables after a number of passes, however many are allowed. -/
def valuesAfter (e : Environment) (passes : Nat) : OrderedMap := pass^[passes] (declared e)

section

variable {e : Environment}

theorem keys_valuesAfter (e : Environment) (passes : Nat) :
    (valuesAfter e passes).keys = e.enabledKeys := by
  induction passes with
  | zero => exact declared_keys e
  | succ passes ih =>
      rw [valuesAfter, Function.iterate_succ_apply', pass, keys_foldl_resolveKey]
      exact ih

theorem size_declared (e : Environment) : (declared e).size = e.enabledKeys.length := by
  rw [← declared_keys, OrderedMap.keys, keysOf, List.length_map]
  rfl

theorem mem_unsettled {values : OrderedMap} {key : String} :
    key ∈ unsettled values ↔
      ∃ value, values.get? key = some value ∧ ∃ name ∈ references value, name ∈ values.keys := by
  have hrefers : ∀ value, refersTo values value = true ↔
      ∃ name ∈ references value, name ∈ values.keys := by
    intro value
    simp only [refersTo, List.any_eq_true, OrderedMap.contains, List.contains_iff_mem]
  rw [unsettled, List.mem_map]
  constructor
  · rintro ⟨⟨k, value⟩, hmem, rfl⟩
    obtain ⟨hentry, hvalue⟩ := List.mem_filter.mp hmem
    exact ⟨value, OrderedMap.get?_of_mem hentry, (hrefers value).mp hvalue⟩
  · rintro ⟨value, hvalue, hname⟩
    have hentry := OrderedMap.mem_of_get? hvalue
    exact ⟨(key, value), List.mem_filter.mpr ⟨hentry, (hrefers value).mpr hname⟩, rfl⟩

theorem build_of_settled {k : Nat} (hk : k ≤ e.enabledKeys.length)
    (h : unsettled (valuesAfter e k) = []) : build e = .ok ⟨valuesAfter e k⟩ := by
  have hbound : k < (declared e).size + 1 := by
    rw [size_declared]
    omega
  exact resolve_of_settled hbound h

theorem build_of_not_settled (h : ∀ k ≤ e.enabledKeys.length, unsettled (valuesAfter e k) ≠ []) :
    build e = .error (unsettled (valuesAfter e (e.enabledKeys.length + 1))) := by
  rw [build, size_declared]
  exact resolve_of_not_settled fun k hk => h k (by omega)

theorem Progress.iterate (h : e.Plain) (k : Nat) : Progress e k (valuesAfter e k) := by
  induction k with
  | zero => exact Progress.declared h
  | succ k ih =>
      rw [valuesAfter, Function.iterate_succ_apply']
      exact ih.pass

theorem exists_settled_of_plain (h : e.Plain) {k : Nat} (hk : unsettled (valuesAfter e k) = []) :
    ∃ j ≤ e.enabledKeys.length, unsettled (valuesAfter e j) = [] := by
  have hopen : ¬ e.Cyclic := fun hc => (Progress.iterate h k).unsettled_ne_nil hc hk
  refine ⟨e.enabledKeys.length, Nat.le_refl _, ?_⟩
  rw [(Progress.iterate h _).unsettled_eq (Nat.le_refl _)]
  exact keysIntoCycles_eq_nil hopen

/-- Whatever the values, `build` answers with the values before a pass that replaces nothing, if
this is one of the allowed passes, or if values are plain text and placeholders. Otherwise there is
no such pass among them, and if references are left behind the last one, the failure names the
variables whose values have them, and there are some. -/
theorem build_stops_at_rest (e : Environment) :
    (∀ k, k ≤ e.enabledKeys.length ∨ e.Plain → passReplaces (valuesAfter e k) = false →
      build e = .ok ⟨valuesAfter e k⟩) ∧
    ∀ names, build e = .error names →
      (∀ k, k ≤ e.enabledKeys.length ∨ e.Plain → passReplaces (valuesAfter e k) = true) ∧
      (passReplaces (valuesAfter e (e.enabledKeys.length + 1)) = true →
        names ≠ [] ∧ ∀ key, key ∈ names ↔
          ∃ value, (valuesAfter e (e.enabledKeys.length + 1)).get? key = some value ∧
            ∃ name ∈ references value, name ∈ e.enabledKeys) := by
  have hok : ∀ k, k ≤ e.enabledKeys.length ∨ e.Plain → passReplaces (valuesAfter e k) = false →
      build e = .ok ⟨valuesAfter e k⟩ := by
    intro k hk hrest
    have hsettled := passReplaces_eq_false_iff.mp hrest
    rcases hk with hk | hplain
    · exact build_of_settled hk hsettled
    · obtain ⟨j, hj, hj'⟩ := exists_settled_of_plain hplain hsettled
      rw [build_of_settled hj hj', valuesAfter, valuesAfter, iterate_eq_of_settled hj' hsettled]
  refine ⟨hok, fun names herror => ?_⟩
  have hreplaces : ∀ k, k ≤ e.enabledKeys.length ∨ e.Plain →
      passReplaces (valuesAfter e k) = true := by
    intro k hk
    by_contra hrest
    rw [hok k hk (Bool.eq_false_iff.mpr hrest)] at herror
    cases herror
  refine ⟨hreplaces, fun hlast => ?_⟩
  have hnames : names = unsettled (valuesAfter e (e.enabledKeys.length + 1)) := by
    have hbuild : build e = _ := build_of_not_settled fun k hk hsettled => by
      have hrest := passReplaces_eq_false_iff.mpr hsettled
      rw [hreplaces k (.inl hk)] at hrest
      cases hrest
    rw [herror] at hbuild
    exact Except.error.inj hbuild
  subst hnames
  refine ⟨fun hsettled => ?_, fun key => ?_⟩
  · rw [passReplaces_eq_false_iff.mpr hsettled] at hlast
    cases hlast
  · rw [mem_unsettled, keys_valuesAfter]

end

/-- One variable makes the references of the other, a layer in each pass. -/
def layered (layers : String) : Environment :=
  [⟨"x", "$\x7bd\x7d" ++ layers, true⟩, ⟨"d", "$", true⟩]

def fourLayers : Environment := layered "\x7bd\x7d\x7bd\x7d\x7bd\x7d"

theorem build_fourLayers : build fourLayers = .error ["x"] := rfl

/-- Two layers are within the bound, and so is any number of passes over plain values. Of four
layers there is one left when the passes are used up. -/
theorem build_layered :
    let two := layered "\x7bd\x7d"
    (2 ≤ two.enabledKeys.length ∧ passReplaces (valuesAfter two 2) = false ∧
      build two = .ok ⟨valuesAfter two 2⟩) ∧
    (chained.Plain ∧ passReplaces (valuesAfter chained 5) = false ∧
      build chained = .ok ⟨valuesAfter chained 5⟩) ∧
    build fourLayers = .error ["x"] ∧ passReplaces (valuesAfter fourLayers 3) = true ∧
      ∃ value, (valuesAfter fourLayers 3).get? "x" = some value ∧
        ∃ name ∈ references value, name ∈ fourLayers.enabledKeys := by
  intro two
  have hk : 2 ≤ two.enabledKeys.length := by decide
  have hallowed : fourLayers.enabledKeys.length + 1 = 3 := by decide
  have htwo : passReplaces (valuesAfter two 2) = false := by decide +kernel
  have hchained : passReplaces (valuesAfter chained 5) = false := by decide +kernel
  have hlast : passReplaces (valuesAfter fourLayers 3) = true := by decide +kernel
  have hnames := ((build_stops_at_rest fourLayers).2 ["x"] build_fourLayers).2
  rw [hallowed] at hnames
  exact ⟨⟨hk, htwo, (build_stops_at_rest two).1 2 (.inl hk) htwo⟩,
    ⟨chained_plain, hchained, (build_stops_at_rest chained).1 5 (.inr chained_plain) hchained⟩,
    build_fourLayers, hlast, ((hnames hlast).2 "x").mp List.mem_cons_self⟩

/-- The fifth pass over four layers would replace nothing, but only three are allowed. -/
theorem settling_layers_refused :
    passReplaces (valuesAfter fourLayers 4) = false ∧
      (valuesAfter fourLayers 4).entries = [("x", "$"), ("d", "$")] ∧
      build fourLayers = .error ["x"] :=
  ⟨by decide +kernel, by decide +kernel, build_fourLayers⟩

/-- Of three layers nothing is left behind the last pass that is allowed. The failure names no
variable. -/
theorem settled_layers_refused :
    let three := layered "\x7bd\x7d\x7bd\x7d"
    three.enabledKeys.length + 1 = 3 ∧ passReplaces (valuesAfter three 3) = false ∧
      (valuesAfter three 3).entries = [("x", "$"), ("d", "$")] ∧ build three = .error [] :=
  ⟨by decide, by decide +kernel, by decide +kernel, by decide +kernel⟩

end LoadScenario.Feeder
