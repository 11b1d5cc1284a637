import LoadScenario.Feeder
import LoadScenario.Proofs.OrderedMap
import LoadScenario.Proofs.ReferenceGraph

/-!
# Resolving feeders ends with the expansions or names the cycles

A feeder is resolved in place: within one pass a later value is replaced from earlier ones that the
same pass has touched already. So there is no state "after so many passes" that a value could be
compared with, and the number of passes is followed through each value on its own. `Traces` says
what a value still has to do with its declaration after some passes. Every name left in it is more
than that many references away from its key, its expansions are those of the declaration, and if its
key leads into a cycle, so does one of its names.

The first of these is what the bound on the passes rests on. A name that is as far away as there are
variables lies behind a cycle, so after as many passes as there are variables only the keys that
lead into a cycle have names left. The last says that those keys never lose their names, however
the passes go.
-/

namespace LoadScenario.Feeder

open Text Environment

/-- The values of variables in parts. -/
abbrev Table := String → Option (List Part)

namespace Table

/-- The parts that stand for a part once its name is replaced. -/
def expand (table : Table) : Part → List Part
  | .char c => [.char c]
  | .name n => (table (String.ofList n)).getD [.name n]

/-- Replaces the names in the value of one variable. -/
def resolveKey (table : Table) (key : String) : Table :=
  match table key with
  | some parts => fun k => if k = key then some (parts.flatMap table.expand) else table k
  | none => table

end Table

/-- The map holds the texts of the values in a table. -/
structure Holds (values : OrderedMap) (table : Table) : Prop where
  clear : ∀ {key parts}, table key = some parts → ∀ p ∈ parts, p.Clear
  value : ∀ key, values.get? key =
    (table key).map fun parts => String.ofList (written reference parts)

/-- What a value has to do with its declaration after a number of passes. -/
structure Traces (e : Environment) (passes : Nat) (key : String) (parts : List Part) : Prop where
  expands : ∃ source, e.Declares key source ∧ ∀ t, e.Expands parts t → e.Expands source t
  far : ∀ n, Part.name n ∈ parts → String.ofList n ∈ e.enabledKeys →
    ∃ i, passes < i ∧ e.Walk i key (String.ofList n)
  cyclic : e.ReachesCycle key → ∃ n, Part.name n ∈ parts ∧ e.ReachesCycle (String.ofList n)

/-! ## Replacing in the table and in the map -/

theorem Holds.substitute {values : OrderedMap} {table : Table} (h : Holds values table)
    {parts : List Part} (hparts : ∀ p ∈ parts, p.Clear) :
    Feeder.substitute values (String.ofList (written reference parts)) =
      String.ofList (written reference (parts.flatMap table.expand)) := by
  rw [Feeder.substitute, String.toList_ofList, Marks.replaceNames_written reference_braced hparts]
  rw [written, List.flatMap_assoc]
  congr 2
  funext p
  cases p with
  | char c => rfl
  | name n =>
      rw [Part.replaced, h.value, Table.expand]
      cases table (String.ofList n) with
      | none => exact (List.append_nil _).symm
      | some inner => exact String.toList_ofList

theorem Holds.clear_expand {values : OrderedMap} {table : Table} (h : Holds values table)
    {parts : List Part} (hparts : ∀ p ∈ parts, p.Clear) :
    ∀ p ∈ parts.flatMap table.expand, p.Clear := by
  intro p hp
  obtain ⟨q, hq, hpq⟩ := List.mem_flatMap.mp hp
  cases q with
  | char c =>
      rw [List.mem_singleton.mp hpq]
      exact hparts _ hq
  | name n =>
      rw [Table.expand] at hpq
      cases hn : table (String.ofList n) with
      | none =>
          rw [hn] at hpq
          rw [List.mem_singleton.mp hpq]
          exact hparts _ hq
      | some inner =>
          rw [hn] at hpq
          exact h.clear hn p hpq

theorem Holds.resolveKey {values : OrderedMap} {table : Table} (h : Holds values table)
    (key : String) : Holds (Feeder.resolveKey values key) (table.resolveKey key) := by
  rw [Feeder.resolveKey, Table.resolveKey, h.value]
  cases hkey : table key with
  | none => exact h
  | some parts =>
      have hclear := h.clear hkey
      constructor
      · intro k ps hk
        simp only [] at hk
        split at hk
        · obtain rfl := Option.some.inj hk
          exact h.clear_expand hclear
        · exact h.clear hk
      · intro k
        simp only [Option.map_some]
        rw [OrderedMap.get?_insert, h.substitute hclear]
        split
        · rfl
        · exact h.value k

theorem Holds.foldl_resolveKey {values : OrderedMap} {table : Table} (h : Holds values table)
    (keys : List String) :
    Holds (keys.foldl Feeder.resolveKey values) (keys.foldl Table.resolveKey table) := by
  induction keys generalizing values table with
  | nil => exact h
  | cons key keys ih => exact ih (h.resolveKey key)

theorem keys_resolveKey (values : OrderedMap) (key : String) :
    (Feeder.resolveKey values key).keys = values.keys := by
  rw [Feeder.resolveKey]
  cases hkey : values.get? key with
  | none => rfl
  | some value =>
      have hmem : key ∈ values.keys := by
        by_contra hno
        rw [OrderedMap.get?_eq_none_iff.mpr hno] at hkey
        cases hkey
      simp only []
      rw [OrderedMap.keys_insert, if_pos hmem]

theorem keys_foldl_resolveKey (keys : List String) (values : OrderedMap) :
    (keys.foldl Feeder.resolveKey values).keys = values.keys := by
  induction keys generalizing values with
  | nil => rfl
  | cons key keys ih => rw [List.foldl_cons, ih, keys_resolveKey]

/-! ## What a pass does to a value -/

theorem Traces.mono {e : Environment} {p : Nat} {key : String} {parts : List Part}
    (h : Traces e (p + 1) key parts) : Traces e p key parts := by
  refine ⟨h.expands, ?_, h.cyclic⟩
  intro n hn hmem
  obtain ⟨i, hi, hwalk⟩ := h.far n hn hmem
  exact ⟨i, by omega, hwalk⟩

theorem Traces.mem {e : Environment} {p : Nat} {key : String} {parts : List Part}
    (h : Traces e p key parts) : key ∈ e.enabledKeys := by
  obtain ⟨source, hsource, -⟩ := h.expands
  exact hsource.mem

section

variable {e : Environment} {p : Nat} {table : Table}

/-- Replaced names bring no expansion that was not there before. -/
theorem expands_of_expand (htable : ∀ k ps, table k = some ps → Traces e p k ps)
    {parts : List Part} {t : List Char} (h : e.Expands (parts.flatMap table.expand) t) :
    e.Expands parts t := by
  induction parts generalizing t with
  | nil => exact h
  | cons q parts ih =>
      rw [List.flatMap_cons] at h
      obtain ⟨s, s', rfl, hs, hs'⟩ := h.split
      have hrest := ih hs'
      cases q with
      | char c => exact hs.append hrest
      | name n =>
          rw [Table.expand] at hs
          cases hn : table (String.ofList n) with
          | none =>
              rw [hn] at hs
              exact hs.append hrest
          | some inner =>
              rw [hn] at hs
              obtain ⟨source, hsource, hexpands⟩ := (htable _ _ hn).expands
              exact .known hsource (hexpands s hs) hrest

/-- The names that come in are one walk further away than those that they replace. -/
theorem Traces.expand (htable : ∀ k ps, table k = some ps → Traces e p k ps)
    (htotal : ∀ k ∈ e.enabledKeys, ∃ ps, table k = some ps) {key : String} {parts : List Part}
    (h : Traces e p key parts) : Traces e (p + 1) key (parts.flatMap table.expand) := by
  constructor
  · obtain ⟨source, hsource, hexpands⟩ := h.expands
    exact ⟨source, hsource, fun t ht => hexpands t (expands_of_expand htable ht)⟩
  · intro m hm hmem
    obtain ⟨q, hq, hmq⟩ := List.mem_flatMap.mp hm
    cases q with
    | char c => cases List.mem_singleton.mp hmq
    | name n =>
        rw [Table.expand] at hmq
        cases hn : table (String.ofList n) with
        | none =>
            rw [hn] at hmq
            obtain rfl := Part.name.inj (List.mem_singleton.mp hmq)
            obtain ⟨ps, hps⟩ := htotal _ hmem
            rw [hn] at hps
            cases hps
        | some inner =>
            rw [hn] at hmq
            have hinner := htable _ _ hn
            obtain ⟨i, hi, hwalk⟩ := h.far n hq hinner.mem
            obtain ⟨j, hj, hwalk'⟩ := hinner.far m hmq hmem
            exact ⟨i + j, by omega, hwalk.trans hwalk'⟩
  · intro hreach
    obtain ⟨n, hn, hreachn⟩ := h.cyclic hreach
    obtain ⟨inner, hinner⟩ := htotal _ hreachn.mem
    obtain ⟨m, hm, hreachm⟩ := (htable _ _ hinner).cyclic hreachn
    refine ⟨m, List.mem_flatMap.mpr ⟨_, hn, ?_⟩, hreachm⟩
    rw [Table.expand, hinner]
    exact hm

/-- A pass over some keys, of which the others have had theirs. -/
theorem traces_foldl_resolveKey (keys : List String)
    (htable : ∀ k ps, table k = some ps → Traces e p k ps)
    (htotal : ∀ k ∈ e.enabledKeys, ∃ ps, table k = some ps)
    (hdone : ∀ k ps, k ∉ keys → table k = some ps → Traces e (p + 1) k ps) :
    ∀ k ps, keys.foldl Table.resolveKey table k = some ps → Traces e (p + 1) k ps := by
  induction keys generalizing table with
  | nil => exact fun k ps hk => hdone k ps List.not_mem_nil hk
  | cons key keys ih =>
      rw [List.foldl_cons]
      cases hkey : table key with
      | none =>
          have hsame : table.resolveKey key = table := by rw [Table.resolveKey, hkey]
          rw [hsame]
          refine ih htable htotal fun k ps hk hps => hdone k ps ?_ hps
          rw [List.mem_cons, not_or]
          refine ⟨?_, hk⟩
          rintro rfl
          rw [hkey] at hps
          cases hps
      | some parts =>
          have hnext : ∀ k, table.resolveKey key k =
              if k = key then some (parts.flatMap table.expand) else table k := by
            intro k
            rw [Table.resolveKey, hkey]
          -- The value may be replaced from values that have had this pass already: they are then
          -- further ahead than is asked of them here, and nothing is lost.
          have hnew := (htable _ _ hkey).expand htable htotal
          refine ih ?_ ?_ ?_
          · intro k ps hps
            rw [hnext] at hps
            split at hps
            · next hk =>
                obtain rfl := Option.some.inj hps
                rw [hk]
                exact hnew.mono
            · exact htable k ps hps
          · intro k hk
            rw [hnext]
            split
            · exact ⟨_, rfl⟩
            · exact htotal k hk
          · intro k ps hk hps
            rw [hnext] at hps
            split at hps
            · next hkk =>
                obtain rfl := Option.some.inj hps
                rw [hkk]
                exact hnew
            · next hkk => exact hdone k ps (by simp [hkk, hk]) hps

end

/-! ## Passes over the whole map -/

/-- What the map of values has to do with the environment after a number of passes. -/
structure Progress (e : Environment) (passes : Nat) (values : OrderedMap) : Prop where
  keys : values.keys = e.enabledKeys
  table : ∃ table, Holds values table ∧ ∀ k ps, table k = some ps → Traces e passes k ps

theorem declared_keys (e : Environment) : (declared e).keys = e.enabledKeys := by
  rw [declared, OrderedMap.keys_ofList, keysOf, List.map_map]
  rfl

theorem declared_get? (e : Environment) (key : String) :
    (declared e).get? key = (e.lastValue? key).map translate := by
  have hfilter : (e.filter (·.enabled)).filter (fun v => v.key = key) =
      e.filter fun v => v.enabled && v.key = key := by
    rw [List.filter_filter]
    exact List.filter_congr fun v _ => Bool.and_comm ..
  rw [declared, OrderedMap.get?_ofList, List.filter_map, List.getLast?_map,
    Option.map_map, lastValue?, Option.map_map, ← hfilter]
  rfl

theorem Progress.declared {e : Environment} (h : e.Plain) : Progress e 0 (declared e) := by
  refine ⟨declared_keys e, ?_⟩
  have hsource : ∀ key, ∃ parts : Option (List Part),
      (∀ ps, parts = some ps → e.Declares key ps) ∧ (parts = none → key ∉ e.enabledKeys) := by
    intro key
    by_cases hkey : key ∈ e.enabledKeys
    · obtain ⟨ps, hps⟩ := h.declares hkey
      refine ⟨some ps, ?_, nofun⟩
      intro ps' hps'
      rwa [← Option.some.inj hps']
    · exact ⟨none, nofun, fun _ => hkey⟩
  choose table hsome hnone using hsource
  refine ⟨table, ⟨fun hk => (hsome _ _ hk).clear, ?_⟩, ?_⟩
  · intro key
    rw [declared_get?]
    cases hkey : table key with
    | none =>
        have hno : e.lastValue? key = none := by
          by_contra hvalue
          obtain ⟨value, hvalue⟩ := Option.ne_none_iff_exists'.mp hvalue
          obtain ⟨v, hv, henabled, hk, -⟩ := lastValue?_eq_some hvalue
          exact hnone key hkey (mem_enabledKeys.mpr ⟨v, hv, henabled, hk⟩)
        rw [hno]
        rfl
    | some ps =>
        have hdeclares := hsome key ps hkey
        rw [hdeclares.value, Option.map_some, Option.map_some, translate_written hdeclares.clear]
  · intro key ps hkey
    have hdeclares := hsome key ps hkey
    refine ⟨⟨ps, hdeclares, fun _ ht => ht⟩, ?_, ?_⟩
    · intro n hn hmem
      refine ⟨1, by omega, .edge ⟨hmem, ps, hdeclares, ?_⟩⟩
      rwa [String.toList_ofList]
    · intro hreach
      obtain ⟨n, ⟨-, ps', hps', hn⟩, hreachn⟩ := hreach.next
      obtain rfl := hps'.unique hdeclares
      exact ⟨n.toList, hn, by rwa [String.ofList_toList]⟩

section

variable {e : Environment} {p : Nat} {values : OrderedMap}

theorem Progress.pass (h : Progress e p values) : Progress e (p + 1) (Feeder.pass values) := by
  obtain ⟨hkeys, table, hholds, htraces⟩ := h
  refine ⟨by rw [Feeder.pass, keys_foldl_resolveKey, hkeys], _, hholds.foldl_resolveKey _, ?_⟩
  refine traces_foldl_resolveKey values.keys htraces ?_ ?_
  · intro k hk
    cases hks : table k with
    | none =>
        have hno : values.get? k = none := by rw [hholds.value, hks]; rfl
        rw [← hkeys] at hk
        exact absurd hk (OrderedMap.get?_eq_none_iff.mp hno)
    | some ps => exact ⟨ps, rfl⟩
  · intro k ps hk hps
    have hvalue := hholds.value k
    rw [hps, OrderedMap.get?_eq_none_iff.mpr hk] at hvalue
    cases hvalue

/-- A value in the map is made of parts that trace back to its declaration. -/
theorem Progress.parts (h : Progress e p values) {key value : String}
    (hmem : (key, value) ∈ values.entries) :
    ∃ parts, (∀ q ∈ parts, q.Clear) ∧ value = String.ofList (written reference parts) ∧
      Traces e p key parts := by
  obtain ⟨-, table, hholds, htraces⟩ := h
  have hvalue := hholds.value key
  rw [OrderedMap.get?_of_mem hmem] at hvalue
  obtain ⟨parts, hparts, hwritten⟩ := Option.map_eq_some_iff.mp hvalue.symm
  exact ⟨parts, hholds.clear hparts, hwritten.symm, htraces _ _ hparts⟩

theorem refersTo_iff (h : Progress e p values) {parts : List Part}
    (hparts : ∀ q ∈ parts, q.Clear) :
    Feeder.refersTo values (String.ofList (written reference parts)) = true ↔
      ∃ n, Part.name n ∈ parts ∧ String.ofList n ∈ e.enabledKeys := by
  rw [Feeder.refersTo, references_written hparts, List.any_map, List.any_eq_true]
  constructor
  · rintro ⟨n, hn, hmem⟩
    rw [Function.comp, OrderedMap.contains, h.keys, List.contains_iff_mem] at hmem
    exact ⟨n, mem_namesOf.mp hn, hmem⟩
  · rintro ⟨n, hn, hmem⟩
    refine ⟨n, mem_namesOf.mpr hn, ?_⟩
    rwa [Function.comp, OrderedMap.contains, h.keys, List.contains_iff_mem]

/-- A key that leads into a cycle never loses its last name. -/
theorem Progress.refersTo_of_reachesCycle (h : Progress e p values) {key value : String}
    (hmem : (key, value) ∈ values.entries) (hreach : e.ReachesCycle key) :
    Feeder.refersTo values value = true := by
  obtain ⟨parts, hclear, rfl, htraces⟩ := h.parts hmem
  obtain ⟨n, hn, hreachn⟩ := htraces.cyclic hreach
  exact (refersTo_iff h hclear).mpr ⟨n, hn, hreachn.mem⟩

/-- After as many passes as there are variables no other key has a name left. -/
theorem Progress.reachesCycle_of_refersTo (h : Progress e p values)
    (hp : e.enabledKeys.length ≤ p) {key value : String} (hmem : (key, value) ∈ values.entries)
    (hrefers : Feeder.refersTo values value = true) : e.ReachesCycle key := by
  obtain ⟨parts, hclear, rfl, htraces⟩ := h.parts hmem
  obtain ⟨n, hn, hknown⟩ := (refersTo_iff h hclear).mp hrefers
  obtain ⟨i, hi, hwalk⟩ := htraces.far n hn hknown
  exact hwalk.reachesCycle (by omega) htraces.mem

end

end LoadScenario.Feeder
