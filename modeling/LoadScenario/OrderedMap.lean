/-!
# Ordered maps

The headers of a request and the variables of an environment are read in the order of their
declaration, and each key is there once: a repeated declaration keeps the place of the first and
takes the value of the last.
-/

namespace LoadScenario

/-- The keys of an association list. -/
def keysOf (entries : List (String × String)) : List String := entries.map Prod.fst

/-- Sets the value of a key, in its place if it is there and at the end otherwise. -/
def setEntry (key value : String) : List (String × String) → List (String × String)
  | [] => [(key, value)]
  | (k, v) :: rest => if k = key then (k, value) :: rest else (k, v) :: setEntry key value rest

theorem keysOf_setEntry (key value : String) (entries : List (String × String)) :
    keysOf (setEntry key value entries) =
      if key ∈ keysOf entries then keysOf entries else keysOf entries ++ [key] := by
  induction entries with
  | nil => simp [setEntry, keysOf]
  | cons e rest ih =>
    obtain ⟨k, v⟩ := e
    by_cases h : k = key
    · simp [setEntry, keysOf, h]
    · have hk : ¬ key = k := fun e => h e.symm
      simp only [setEntry, h, if_false]
      simp only [keysOf, List.map_cons] at ih ⊢
      rw [ih]
      by_cases hm : key ∈ rest.map Prod.fst <;> simp [hm, hk]

theorem lookup_setEntry (key value k : String) (entries : List (String × String)) :
    (setEntry key value entries).lookup k =
      if k = key then some value else entries.lookup k := by
  induction entries with
  | nil => by_cases h : k = key <;> simp [setEntry, List.lookup_cons, h]; simp [beq_false_of_ne h]
  | cons e rest ih =>
    obtain ⟨k', v⟩ := e
    by_cases h : k' = key
    · subst h
      by_cases hk : k = k'
      · simp [setEntry, hk]
      · simp [setEntry, List.lookup_cons, hk, beq_false_of_ne hk]
    · by_cases hk : k = k'
      · simp [setEntry, h, hk]
      · simp [setEntry, h, List.lookup_cons, beq_false_of_ne hk, ih]

/-- Texts by texts, each key once, in the order in which the keys came. -/
structure OrderedMap where
  entries : List (String × String)
  nodup : (keysOf entries).Nodup

namespace OrderedMap

theorem ext_entries {m m' : OrderedMap} (h : m.entries = m'.entries) : m = m' := by
  cases m; cases m'; cases h; rfl

instance : DecidableEq OrderedMap := fun m m' =>
  if h : m.entries = m'.entries then .isTrue (ext_entries h)
  else .isFalse fun e => h (congrArg entries e)

/-- The map without keys. -/
def empty : OrderedMap := ⟨[], List.nodup_nil⟩

instance : EmptyCollection OrderedMap := ⟨empty⟩

instance : Inhabited OrderedMap := ⟨empty⟩

/-- The keys in order. -/
def keys (m : OrderedMap) : List String := keysOf m.entries

/-- The value of a key. -/
def get? (m : OrderedMap) (key : String) : Option String := m.entries.lookup key

/-- Whether a key is there. -/
def contains (m : OrderedMap) (key : String) : Bool := m.keys.contains key

/-- Sets the value of a key. -/
def insert (m : OrderedMap) (key value : String) : OrderedMap where
  entries := setEntry key value m.entries
  nodup := by
    rw [keysOf_setEntry]
    split
    · exact m.nodup
    · next h => exact List.nodup_append.mpr ⟨m.nodup, by simp, by
        intro a ha b hb
        rw [List.mem_singleton] at hb
        subst hb
        intro e
        exact h (e ▸ ha)⟩

/-- The map that a list of declarations makes. -/
def ofList (declarations : List (String × String)) : OrderedMap :=
  declarations.foldl (fun m (key, value) => m.insert key value) empty

/-- The number of keys. -/
def size (m : OrderedMap) : Nat := m.entries.length

/-- Whether there are no keys. -/
def isEmpty (m : OrderedMap) : Bool := m.entries.isEmpty

theorem keys_insert (m : OrderedMap) (key value : String) :
    (m.insert key value).keys = if key ∈ m.keys then m.keys else m.keys ++ [key] :=
  keysOf_setEntry key value m.entries

theorem get?_insert (m : OrderedMap) (key value k : String) :
    (m.insert key value).get? k = if k = key then some value else m.get? k :=
  lookup_setEntry key value k m.entries

end OrderedMap

end LoadScenario
