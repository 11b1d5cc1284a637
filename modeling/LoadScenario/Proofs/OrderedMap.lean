import LoadScenario.OrderedMap
import Mathlib.Data.List.Induction

/-!
# What an ordered map holds

A map is read by its entries, by its keys in order and by the value of each key. The three agree
because no key is there twice. For a map made of declarations the keys are those of the
declarations in the order in which each comes first, and the value of a key is that of the last
declaration with it.
-/

namespace LoadScenario

/-! ## Lists with values for keys -/

section

variable {α β : Type} [DecidableEq α]

/-- Where there is a value, another one behind it makes no difference. -/
theorem lookup_or_of_isSome {l : List (α × β)} {key : α} (h : (l.lookup key).isSome)
    (other? : Option β) (x : α) :
    (l.lookup x).or (if x = key then other? else none) = l.lookup x := by
  by_cases hx : x = key
  · obtain ⟨value, hvalue⟩ := Option.isSome_iff_exists.mp h
    rw [hx, hvalue, Option.some_or]
  · rw [if_neg hx, Option.or_none]

theorem lookup_cons_eq (key : α) (value : β) (l : List (α × β)) (x : α) :
    List.lookup x ((key, value) :: l) = (if x = key then some value else none).or (l.lookup x) := by
  rw [List.lookup_cons]
  by_cases hx : x = key
  · rw [if_pos hx, beq_iff_eq.mpr hx, Option.some_or]
  · rw [if_neg hx, beq_false_of_ne hx, Option.none_or]

/-- A value at the end counts where there is no other. -/
theorem lookup_concat (l : List (α × β)) (key : α) (value : β) (x : α) :
    (l ++ [(key, value)]).lookup x = (l.lookup x).or (if x = key then some value else none) := by
  rw [List.lookup_append, lookup_cons_eq, List.lookup_nil, Option.or_none]

end

namespace OrderedMap

theorem get?_eq_none_iff {m : OrderedMap} {key : String} : m.get? key = none ↔ key ∉ m.keys := by
  rw [get?, List.lookup_eq_none_iff, keys, keysOf, List.mem_map]
  constructor
  · rintro h ⟨e, he, rfl⟩
    exact absurd (h e he) (by simp)
  · intro h e he
    have hne : key ≠ e.1 := fun hkey => h ⟨e, he, hkey.symm⟩
    exact bne_iff_ne.mpr hne

theorem lookup_of_mem {entries : List (String × String)} (hn : (keysOf entries).Nodup)
    {key value : String} (h : (key, value) ∈ entries) : entries.lookup key = some value := by
  induction entries with
  | nil => cases h
  | cons e rest ih =>
      obtain ⟨k, v⟩ := e
      obtain ⟨hk, hrest⟩ := List.nodup_cons.mp hn
      rw [List.lookup_cons]
      rcases List.mem_cons.mp h with heq | hmem
      · obtain ⟨rfl, rfl⟩ := Prod.mk.inj heq
        rw [beq_self_eq_true]
      · have hne : key ≠ k := by
          rintro rfl
          exact hk (List.mem_map.mpr ⟨_, hmem, rfl⟩)
        rw [beq_false_of_ne hne]
        exact ih hrest hmem

/-- The value of a key is the one it has in its only entry. -/
theorem get?_of_mem {m : OrderedMap} {key value : String} (h : (key, value) ∈ m.entries) :
    m.get? key = some value :=
  lookup_of_mem m.nodup h

theorem mem_of_get? {m : OrderedMap} {key value : String} (h : m.get? key = some value) :
    (key, value) ∈ m.entries := by
  obtain ⟨before, after, heq, -⟩ := List.lookup_eq_some_iff.mp h
  rw [heq]
  exact List.mem_append_right before List.mem_cons_self

theorem setEntry_of_lookup {entries : List (String × String)} {key value : String}
    (h : entries.lookup key = some value) : setEntry key value entries = entries := by
  induction entries with
  | nil => cases h
  | cons e rest ih =>
      obtain ⟨k, v⟩ := e
      rw [List.lookup_cons] at h
      by_cases hk : k = key
      · subst hk
        rw [beq_self_eq_true] at h
        rw [setEntry, if_pos rfl, Option.some.inj h]
      · rw [beq_false_of_ne (Ne.symm hk)] at h
        rw [setEntry, if_neg hk, ih h]

/-- Nothing changes when a key gets the value that it has. -/
theorem insert_of_get? {m : OrderedMap} {key value : String} (h : m.get? key = some value) :
    m.insert key value = m :=
  ext_entries (setEntry_of_lookup h)

theorem ofList_concat (l : List (String × String)) (key value : String) :
    ofList (l ++ [(key, value)]) = (ofList l).insert key value := by
  rw [ofList, List.foldl_append]
  rfl

theorem keys_ofList (l : List (String × String)) : (ofList l).keys = (keysOf l).eraseDups := by
  induction l using List.reverseRecOn with
  | nil => rfl
  | append_singleton l d ih =>
      obtain ⟨key, value⟩ := d
      have hkeys : keysOf (l ++ [(key, value)]) = keysOf l ++ [key] := List.map_append
      rw [ofList_concat, keys_insert, ih, hkeys, List.eraseDups_append]
      by_cases h : key ∈ keysOf l
      · rw [if_pos (List.mem_eraseDups.mpr h)]
        simp [List.removeAll, h]
      · rw [if_neg (fun hmem => h (List.mem_eraseDups.mp hmem))]
        simp [List.removeAll, h, List.eraseDups_cons]

theorem get?_ofList (l : List (String × String)) (key : String) :
    (ofList l).get? key = ((l.filter fun d => d.1 = key).getLast?).map Prod.snd := by
  induction l using List.reverseRecOn with
  | nil => rfl
  | append_singleton l d ih =>
      obtain ⟨k, value⟩ := d
      rw [ofList_concat, get?_insert, ih, List.filter_append, List.getLast?_append]
      by_cases h : k = key
      · simp [h]
      · have hne : ¬ key = k := fun e => h e.symm
        simp [h, hne]

theorem find?_eraseDups (p : String → Bool) (keys : List String) :
    keys.eraseDups.find? p = keys.find? p := by
  induction keys using List.reverseRecOn with
  | nil => rfl
  | append_singleton keys key ih =>
      rw [List.eraseDups_append, List.find?_append, List.find?_append, ih]
      by_cases hmem : key ∈ keys
      · have hnone : [key].removeAll keys = [] := by simp [List.removeAll, hmem]
        rw [hnone, List.eraseDups_nil, List.find?_nil, Option.or_none]
        cases hfind : keys.find? p with
        | some found => rfl
        | none =>
            have hkey : ¬ p key := List.find?_eq_none.mp hfind key hmem
            rw [List.find?_cons_of_neg hkey, List.find?_nil, Option.or_none]
      · have hnew : [key].removeAll keys = [key] := by simp [List.removeAll, hmem]
        rw [hnew]
        rfl

/-- The first key with a property is the first of the declarations, and its value the last that is
declared for it. -/
theorem find?_ofList (p : String → Bool) (l : List (String × String)) :
    ((ofList l).entries.find? fun e => p e.1) =
      (l.find? fun e => p e.1).bind fun e =>
        (((l.filter fun d => d.1 = e.1).getLast?).map Prod.snd).map fun value => (e.1, value) := by
  have hkeys : ((ofList l).entries.find? fun e => p e.1).map Prod.fst =
      (l.find? fun e => p e.1).map Prod.fst := by
    have hfirst := find?_eraseDups p (keysOf l)
    rw [← keys_ofList, keys, keysOf, keysOf, List.find?_map, List.find?_map] at hfirst
    exact hfirst
  cases hdeclared : l.find? fun e => p e.1 with
  | none =>
      rw [hdeclared, Option.map_none, Option.map_eq_none_iff] at hkeys
      exact hkeys
  | some declared =>
      rw [hdeclared, Option.map_some] at hkeys
      obtain ⟨⟨key, value⟩, hfound, rfl⟩ := Option.map_eq_some_iff.mp hkeys
      have hvalue := get?_of_mem (List.mem_of_find?_eq_some hfound)
      rw [get?_ofList] at hvalue
      rw [hfound, Option.bind_some, hvalue]
      rfl

theorem filter_setEntry (p : String → Bool) (key value : String)
    (entries : List (String × String)) :
    (setEntry key value entries).filter (fun e => p e.1) =
      if p key then setEntry key value (entries.filter fun e => p e.1)
      else entries.filter fun e => p e.1 := by
  induction entries with
  | nil => cases hp : p key <;> simp [setEntry, hp]
  | cons e rest ih =>
      obtain ⟨k, v⟩ := e
      rw [setEntry]
      by_cases hk : k = key
      · subst hk
        cases hp : p k <;> simp [hp, setEntry]
      · rw [if_neg hk, List.filter_cons, ih, List.filter_cons]
        cases hp : p key <;> cases hpk : p k <;> simp [setEntry, hk]

/-- Declarations that are left out for their keys might as well be taken out of the map. -/
theorem entries_ofList_filter (p : String → Bool) (l : List (String × String)) :
    (ofList (l.filter fun e => p e.1)).entries = (ofList l).entries.filter fun e => p e.1 := by
  induction l using List.reverseRecOn with
  | nil => rfl
  | append_singleton l d ih =>
      obtain ⟨key, value⟩ := d
      have hfilter : ((ofList l).insert key value).entries.filter (fun e => p e.1) =
          if p key then setEntry key value ((ofList l).entries.filter fun e => p e.1)
          else (ofList l).entries.filter fun e => p e.1 :=
        filter_setEntry p key value (ofList l).entries
      rw [List.filter_append, ofList_concat, hfilter, ← ih]
      cases hp : p key with
      | false => simp [hp]
      | true =>
          have hkept : [(key, value)].filter (fun e => p e.1) = [(key, value)] := by simp [hp]
          rw [hkept, ofList_concat]
          rfl

end OrderedMap

end LoadScenario
