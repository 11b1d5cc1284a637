import LoadScenario.Json.Record
import Mathlib.Data.List.Nodup
import Mathlib.Logic.Relation

/-!
# Edits that a reader of records does not see

Documents come out of other programs, and those change the order of members, add members of their
own and write out what used to be left out. A reader of records is meant not to notice, and it is
meant to notice a null or a repeated member that leaves open what the document says.

Both are said here for any document that is made of records. A shape tells which fields a record
has, what leaving one out means, and of what shape their values are. `Edit` is then one harmless
edit anywhere in a document, `Spoiled` is a document with something wrong anywhere in it, and a
reader that is put together field by field respects its shape: an edit keeps what it reads, and it
reads nothing from a spoiled document.
-/

namespace LoadScenario.Json

/-- What leaving a field out means. -/
inductive Presence where
  | required
  /-- The same as writing this value. -/
  | default (value : Json)
  /-- The same as writing null. -/
  | optional

/-- How a document is made of records. -/
inductive Shape where
  /-- A text or a truth value. -/
  | leaf
  | list (item : Shape)
  | record (fields : List (String × Presence × Shape))

/-- A field of a record: its key, what leaving it out means, and the shape of its value. -/
abbrev Field := String × Presence × Shape

/-- The known keys of a record in the order of declaration. -/
def names (fields : List Field) : List String := fields.map Prod.fst

variable {α β : Type}

/-! ## Edits and faults -/

/-- One edit of a document that does not change what it says. -/
inductive Edit : Shape → Json → Json → Prop where
  | reorder {fields : List Field} {members members' : List (Json.Text × Json)} :
      members.Perm members' → Edit (.record fields) (.object members) (.object members')
  | addUnknown {fields : List Field} (before : List (Json.Text × Json)) (key : String)
      {after : List (Json.Text × Json)} {v : Json} : key ∉ names fields →
      Edit (.record fields) (.object (before ++ after)) (.object (before ++ (some key, v) :: after))
  | changeUnknown {fields : List Field} (before : List (Json.Text × Json))
      {after : List (Json.Text × Json)} {key : String} {v v' : Json} : key ∉ names fields →
      Edit (.record fields) (.object (before ++ (some key, v) :: after))
        (.object (before ++ (some key, v') :: after))
  | writeDefault {fields : List Field} (before : List (Json.Text × Json)) (name : String)
      {after : List (Json.Text × Json)} {v : Json} {s : Shape} :
      (name, .default v, s) ∈ fields → (∀ m ∈ before ++ after, m.1 ≠ some name) →
      Edit (.record fields) (.object (before ++ after))
        (.object (before ++ (some name, v) :: after))
  | writeNull {fields : List Field} (before : List (Json.Text × Json)) (name : String)
      {after : List (Json.Text × Json)} {s : Shape} :
      (name, .optional, s) ∈ fields → (∀ m ∈ before ++ after, m.1 ≠ some name) →
      Edit (.record fields) (.object (before ++ after))
        (.object (before ++ (some name, .null) :: after))
  | member {fields : List Field} (before : List (Json.Text × Json))
      {after : List (Json.Text × Json)} {name : String} {p : Presence} {s : Shape} {v v' : Json} :
      (name, p, s) ∈ fields → Edit s v v' →
      Edit (.record fields) (.object (before ++ (some name, v) :: after))
        (.object (before ++ (some name, v') :: after))
  /-- An edit in a record that is given as an array. -/
  | position {fields fields₁ fields₂ : List Field} (before : List Json) {after : List Json}
      {name : String} {p : Presence} {s : Shape} {v v' : Json} :
      fields = fields₁ ++ (name, p, s) :: fields₂ → fields₁.length = before.length → Edit s v v' →
      Edit (.record fields) (.array (before ++ v :: after)) (.array (before ++ v' :: after))
  | item {s : Shape} (before : List Json) {after : List Json} {v v' : Json} : Edit s v v' →
      Edit (.list s) (.array (before ++ v :: after)) (.array (before ++ v' :: after))

/-- A document that leaves open what it says: somewhere in it a null stands for something that is
not optional, or a known member comes twice. -/
inductive Spoiled : Shape → Json → Prop where
  | null {s : Shape} : Spoiled s .null
  | repeated {fields : List Field} (before middle : List (Json.Text × Json))
      {after : List (Json.Text × Json)} {name : String} {v v' : Json} : name ∈ names fields →
      Spoiled (.record fields)
        (.object (before ++ (some name, v) :: middle ++ (some name, v') :: after))
  | member {fields : List Field} {members : List (Json.Text × Json)} {name : String}
      {p : Presence} {s : Shape} {v : Json} : (name, p, s) ∈ fields → (some name, v) ∈ members →
      Spoiled s v → (p = .optional → v ≠ .null) → Spoiled (.record fields) (.object members)
  /-- A fault in a record that is given as an array. -/
  | position {fields fields₁ fields₂ : List Field} {before after : List Json} {name : String}
      {p : Presence} {s : Shape} {v : Json} : fields = fields₁ ++ (name, p, s) :: fields₂ →
      fields₁.length = before.length → Spoiled s v → (p = .optional → v ≠ .null) →
      Spoiled (.record fields) (.array (before ++ v :: after))
  | item {s : Shape} {items : List Json} {v : Json} : v ∈ items → Spoiled s v →
      Spoiled (.list s) (.array items)

theorem Edit.ne_null {s : Shape} {j j' : Json} (h : Edit s j j') : j ≠ .null ∧ j' ≠ .null := by
  cases h <;> exact ⟨Json.noConfusion, Json.noConfusion⟩

/-- What is read the first time is read the second time. -/
def Keeps (o o' : Option α) : Prop := ∀ a, o = some a → o' = some a

namespace Keeps

theorem refl (o : Option α) : Keeps o o := fun _ h => h

theorem bind {o o' : Option α} {f f' : α → Option β} (ho : Keeps o o')
    (hf : ∀ a, Keeps (f a) (f' a)) : Keeps (o.bind f) (o'.bind f') := by
  intro b hb
  obtain ⟨a, ha, hfa⟩ := Option.bind_eq_some_iff.mp hb
  rw [ho a ha, Option.bind_some]
  exact hf a b hfa

theorem map {o o' : Option α} (ho : Keeps o o') (f : α → β) : Keeps (o.map f) (o'.map f) := by
  intro b hb
  obtain ⟨a, ha, rfl⟩ := Option.map_eq_some_iff.mp hb
  rw [ho a ha, Option.map_some]

end Keeps

/-- A reader does not see an edit, and it sees a fault. -/
structure Respects (s : Shape) (read : Json → Option α) : Prop where
  edit {j j' : Json} : Edit s j j' → Keeps (read j) (read j')
  spoiled {j : Json} : Spoiled s j → read j = none

theorem respects_leaf {read : Json → Option α} (hnull : read .null = none) :
    Respects .leaf read where
  edit h := by cases h
  spoiled h := by
    cases h
    exact hnull

theorem respects_list {s : Shape} {read : Json → Option α} (h : Respects s read) :
    Respects (.list s) (list? read) where
  edit hedit := by
    cases hedit with
    | @item _ before after v v' hv =>
        show Keeps ((before ++ v :: after).mapM read) ((before ++ v' :: after).mapM read)
        induction before with
        | nil =>
            simp only [List.nil_append, List.mapM_cons]
            exact (h.edit hv).bind fun _ => .refl _
        | cons item before ih =>
            simp only [List.cons_append, List.mapM_cons]
            exact (Keeps.refl _).bind fun _ => ih.bind fun _ => .refl _
  spoiled hspoiled := by
    cases hspoiled with
    | null => rfl
    | @item _ items v hv hspoiled =>
        show items.mapM read = none
        induction items with
        | nil => cases hv
        | cons item items ih =>
            rw [List.mapM_cons]
            rcases List.mem_cons.mp hv with rfl | hv
            · rw [h.spoiled hspoiled]
              rfl
            · rw [ih hv]
              cases read item <;> rfl

/-! ## What a record says of its fields -/

/-- What a record says of a field, before and after an edit. -/
inductive Retold (p : Presence) (s : Shape) : Option Json → Option Json → Prop where
  | same {o : Option Json} : Retold p s o o
  | value {v v' : Json} : Edit s v v' → Retold p s (some v) (some v')
  | default {v : Json} : p = .default v → Retold p s none (some v)
  | null : p = .optional → Retold p s none (some .null)

/-- Two records say the same of all fields. -/
def RecordEdit (fields : List Field) (r r' : Record) : Prop :=
  ∀ name p s, (name, p, s) ∈ fields → Retold p s (r.lookup name) (r'.lookup name)

/-- A record says something wrong of some field. -/
def RecordSpoiled (fields : List Field) (r : Record) : Prop :=
  ∃ name p s v, (name, p, s) ∈ fields ∧ r.lookup name = some v ∧ Spoiled s v ∧
    (p = .optional → v ≠ .null)

/-- A reader of the fields of a record does not see an edit, and it sees a fault. -/
structure FieldsReader (fields : List Field) (body : Record → Option α) : Prop where
  edit {r r' : Record} : RecordEdit fields r r' → Keeps (body r) (body r')
  spoiled {r : Record} : RecordSpoiled fields r → body r = none

namespace FieldsReader

variable {name : String} {p : Presence} {s : Shape} {fields : List Field}
  {read : Json → Option β} {rest : β → Record → Option α}

theorem nil (a : α) : FieldsReader [] fun _ => some a where
  edit _ := .refl _
  spoiled h := by
    obtain ⟨_, _, _, _, hmem, -⟩ := h
    cases hmem

/-- A reader that reads one field and then the others. -/
theorem cons {field : Record → Option β}
    (hedit : ∀ r r', Retold p s (r.lookup name) (r'.lookup name) → Keeps (field r) (field r'))
    (hspoiled : ∀ r v, r.lookup name = some v → Spoiled s v → (p = .optional → v ≠ .null) →
      field r = none)
    (hrest : ∀ b, FieldsReader fields (rest b)) :
    FieldsReader ((name, p, s) :: fields) fun r => (field r).bind fun b => rest b r where
  edit h := by
    refine (hedit _ _ (h name p s List.mem_cons_self)).bind fun b => (hrest b).edit ?_
    intro name' p' s' hmem
    exact h name' p' s' (List.mem_cons_of_mem _ hmem)
  spoiled h := by
    rename_i r
    obtain ⟨name', p', s', v, hmem, hlookup, hv, hnull⟩ := h
    rcases List.mem_cons.mp hmem with heq | hmem
    · cases heq
      rw [hspoiled r v hlookup hv hnull, Option.bind_none]
    · have hnone : ∀ b, rest b r = none := fun b =>
        (hrest b).spoiled ⟨name', p', s', v, hmem, hlookup, hv, hnull⟩
      cases field r with
      | none => rfl
      | some b => exact hnone b

theorem required (hread : Respects s read) (hrest : ∀ b, FieldsReader fields (rest b)) :
    FieldsReader ((name, .required, s) :: fields) fun r =>
      (r.required name read).bind fun b => rest b r := by
  refine cons (fun r r' hretold => ?_) (fun r v hlookup hv _ => ?_) hrest
  · rw [Record.required, Record.required]
    generalize r.lookup name = o, r'.lookup name = o' at hretold
    cases hretold with
    | same => exact .refl _
    | value hv => exact hread.edit hv
    | default hp => cases hp
    | null hp => cases hp
  · rw [Record.required, hlookup, Option.bind_some, hread.spoiled hv]

theorem withDefault (hread : Respects s read) {v : Json} {b : β} (hdefault : read v = some b)
    (hrest : ∀ b, FieldsReader fields (rest b)) :
    FieldsReader ((name, .default v, s) :: fields) fun r =>
      (r.withDefault name read b).bind fun b => rest b r := by
  refine cons (fun r r' hretold => ?_) (fun r v hlookup hv _ => ?_) hrest
  · rw [Record.withDefault, Record.withDefault]
    generalize r.lookup name = o, r'.lookup name = o' at hretold
    cases hretold with
    | same => exact .refl _
    | value hv => exact hread.edit hv
    | default hp =>
        cases hp
        show Keeps (some b) (read v)
        rw [hdefault]
        exact .refl _
    | null hp => cases hp
  · rw [Record.withDefault, hlookup]
    exact hread.spoiled hv

theorem optional (hread : Respects s read) {rest : Option β → Record → Option α}
    (hrest : ∀ b, FieldsReader fields (rest b)) :
    FieldsReader ((name, .optional, s) :: fields) fun r =>
      (r.optional name read).bind fun b => rest b r := by
  -- A value that is not null is read as it is; no edit makes it null or starts from null.
  have hvalue : ∀ {r : Record} {v}, r.lookup name = some v → v ≠ .null →
      r.optional name read = (read v).map some := by
    intro r v hlookup hne
    rw [Record.optional, hlookup]
    split
    next heq => cases heq
    next heq => exact absurd (Option.some.inj heq) hne
    next heq =>
      cases heq
      rfl
  refine cons (fun r r' hretold => ?_) (fun r v hlookup hv hnull => ?_) hrest
  · generalize ho : r.lookup name = o, ho' : r'.lookup name = o' at hretold
    cases hretold with
    | same =>
        rw [Record.optional, Record.optional, ho, ho']
        exact .refl _
    | value hv =>
        rw [hvalue ho hv.ne_null.1, hvalue ho' hv.ne_null.2]
        exact (hread.edit hv).map some
    | default hp => cases hp
    | null =>
        rw [Record.optional, Record.optional, ho, ho']
        exact .refl _
  · rw [hvalue hlookup (hnull rfl), hread.spoiled hv, Option.map_none]

end FieldsReader

/-! ## The record of an object -/

/-- The member that a record keeps of a member of an object. -/
def known (names : List String) (m : Json.Text × Json) : Option (String × Json) :=
  m.1.bind fun key => if key ∈ names then some (key, m.2) else none

theorem knownMembers_eq_some_iff {names : List String} {members : List (Json.Text × Json)}
    {r : Record} : knownMembers names members = some r ↔
      (∀ m ∈ members, m.1 ≠ none) ∧ members.filterMap (known names) = r := by
  induction members generalizing r with
  | nil => simp [knownMembers]
  | cons m members ih =>
      obtain ⟨key | key, v⟩ := m
      · simp [knownMembers]
      · by_cases hkey : key ∈ names <;> simp [knownMembers, known, hkey, ih, and_assoc]

theorem record?_object_iff {names : List String} {members : List (Json.Text × Json)}
    {r : Record} : record? names (.object members) = some r ↔
      (∀ m ∈ members, m.1 ≠ none) ∧ members.filterMap (known names) = r ∧
        (r.map Prod.fst).Nodup := by
  rw [record?, Option.bind_eq_some_iff]
  constructor
  · rintro ⟨known, hknown, hr⟩
    split at hr
    next hnodup =>
      cases hr
      obtain ⟨hkeys, hmembers⟩ := knownMembers_eq_some_iff.mp hknown
      exact ⟨hkeys, hmembers, hnodup⟩
    next => cases hr
  · rintro ⟨hkeys, hmembers, hnodup⟩
    exact ⟨r, knownMembers_eq_some_iff.mpr ⟨hkeys, hmembers⟩, if_pos hnodup⟩

theorem record?_array_iff {names : List String} {items : List Json} {r : Record} :
    record? names (.array items) = some r ↔ items.length ≤ names.length ∧ names.zip items = r := by
  rw [record?, Option.ite_none_right_eq_some, Option.some.injEq]

section Members

variable {names : List String} {before after : List (Json.Text × Json)} {key : String} {v : Json}

theorem filterMap_known_of_mem (hkey : key ∈ names) :
    (before ++ (some key, v) :: after).filterMap (known names) =
      before.filterMap (known names) ++ (key, v) :: after.filterMap (known names) := by
  simp [known, hkey]

theorem filterMap_known_of_not_mem (hkey : key ∉ names) :
    (before ++ (some key, v) :: after).filterMap (known names) =
      (before ++ after).filterMap (known names) := by
  simp [known, hkey]

theorem key_of_mem_known {members : List (Json.Text × Json)}
    (h : (key, v) ∈ members.filterMap (known names)) : (some key, v) ∈ members := by
  obtain ⟨⟨key' | key', v'⟩, hm, heq⟩ := List.mem_filterMap.mp h
  · cases heq
  · by_cases hkey' : key' ∈ names
    · rw [known, Option.bind_some, if_pos hkey'] at heq
      cases heq
      exact hm
    · rw [known, Option.bind_some, if_neg hkey'] at heq
      cases heq

theorem texts_insert_iff :
    (∀ m ∈ before ++ (some key, v) :: after, m.1 ≠ none) ↔ ∀ m ∈ before ++ after, m.1 ≠ none := by
  simp only [List.mem_append, List.mem_cons, or_imp, forall_and, forall_eq, ne_eq, reduceCtorEq,
    not_false_eq_true, true_and]

end Members

/-! ## Looking up a field -/

section Lookup

variable {r r' before after : Record} {key name : String} {v v' : Json}

theorem lookup_insert (h : name ∉ before.map Prod.fst) :
    (before ++ (name, v) :: after).lookup key =
      if key = name then some v else (before ++ after).lookup key := by
  induction before with
  | nil =>
      by_cases hkey : key = name
      · simp [hkey]
      · simp [List.lookup_cons, beq_false_of_ne hkey, hkey]
  | cons m before ih =>
      obtain ⟨k, u⟩ := m
      rw [List.map_cons, List.mem_cons, not_or] at h
      by_cases hk : key = k
      · have hne : key ≠ name := fun e => h.1 (e.symm.trans hk)
        rw [if_neg hne, hk, List.cons_append, List.cons_append, List.lookup_cons_self,
          List.lookup_cons_self]
      · simp [List.lookup_cons, beq_false_of_ne hk, ih h.2]

theorem lookup_eq_some_iff (h : (r.map Prod.fst).Nodup) :
    r.lookup key = some v ↔ (key, v) ∈ r := by
  constructor
  · intro hlookup
    obtain ⟨before, after, rfl, -⟩ := List.lookup_eq_some_iff.mp hlookup
    exact List.mem_append_right before List.mem_cons_self
  · intro hmem
    obtain ⟨before, after, rfl⟩ := List.append_of_mem hmem
    rw [List.map_append, List.map_cons, List.nodup_middle, List.nodup_cons, List.mem_append,
      not_or] at h
    rw [lookup_insert h.1.1, if_pos rfl]

theorem lookup_perm (hperm : r.Perm r') (h : (r.map Prod.fst).Nodup) :
    r.lookup key = r'.lookup key := by
  have h' : (r'.map Prod.fst).Nodup := (hperm.map Prod.fst).nodup_iff.mp h
  refine Option.ext fun v => ?_
  rw [lookup_eq_some_iff h, lookup_eq_some_iff h', hperm.mem_iff]

end Lookup

/-! ## A record respects its shape -/

section Record

variable {fields : List Field} {r r' before after : Record} {name : String} {p : Presence}
  {s : Shape} {v v' : Json}

theorem mem_names (h : (name, p, s) ∈ fields) : name ∈ names fields :=
  List.mem_map_of_mem h

theorem recordEdit_refl : RecordEdit fields r r := fun _ _ _ _ => .same

/-- An edit of what a record says of one field. -/
theorem recordEdit_of_field (hnames : (names fields).Nodup) (hfield : (name, p, s) ∈ fields)
    (hname : Retold p s (r.lookup name) (r'.lookup name))
    (hothers : ∀ key, key ≠ name → r.lookup key = r'.lookup key) : RecordEdit fields r r' := by
  intro key p' s' hmem
  by_cases hkey : key = name
  · have heq : (key, p', s') = (name, p, s) :=
      List.inj_on_of_nodup_map hnames hmem hfield hkey
    cases heq
    exact hname
  · rw [hothers key hkey]
    exact .same

theorem recordEdit_value (hnames : (names fields).Nodup) (hfield : (name, p, s) ∈ fields)
    (hname : name ∉ before.map Prod.fst) (hv : Edit s v v') :
    RecordEdit fields (before ++ (name, v) :: after) (before ++ (name, v') :: after) := by
  refine recordEdit_of_field hnames hfield ?_ fun key hkey => ?_
  · rw [lookup_insert hname, lookup_insert hname, if_pos rfl, if_pos rfl]
    exact .value hv
  · rw [lookup_insert hname, lookup_insert hname, if_neg hkey, if_neg hkey]

theorem recordEdit_written (hnames : (names fields).Nodup) (hfield : (name, p, s) ∈ fields)
    (hname : name ∉ (before ++ after).map Prod.fst) (hv : Retold p s none (some v)) :
    RecordEdit fields (before ++ after) (before ++ (name, v) :: after) := by
  have hbefore : name ∉ before.map Prod.fst := fun h =>
    hname (by rw [List.map_append]; exact List.mem_append_left _ h)
  have hnone : (before ++ after).lookup name = none :=
    List.lookup_eq_none_iff.mpr fun m hm => by
      have hne : name ≠ m.1 := fun e => hname (e ▸ List.mem_map_of_mem hm)
      simpa using hne
  refine recordEdit_of_field hnames hfield ?_ fun key hkey => ?_
  · rw [hnone, lookup_insert hbefore, if_pos rfl]
    exact hv
  · rw [lookup_insert hbefore, if_neg hkey]

theorem not_mem_keys_known (fields : List Field) {members : List (Json.Text × Json)}
    (h : ∀ m ∈ members, m.1 ≠ some name) :
    name ∉ (members.filterMap (known (names fields))).map Prod.fst := by
  intro hmem
  obtain ⟨⟨key, v⟩, hm, rfl⟩ := List.mem_map.mp hmem
  exact h _ (key_of_mem_known hm) rfl

theorem nodup_keys_insert :
    ((before ++ (name, v) :: after).map Prod.fst).Nodup ↔
      name ∉ (before ++ after).map Prod.fst ∧ ((before ++ after).map Prod.fst).Nodup := by
  simp only [List.map_append, List.map_cons, List.nodup_middle, List.nodup_cons]

/-- A field that is written out adds one member to the record. -/
theorem record?_written {before after : List (Json.Text × Json)} (hnames : (names fields).Nodup)
    (hfield : (name, p, s) ∈ fields) (hmissing : ∀ m ∈ before ++ after, m.1 ≠ some name)
    (hv : Retold p s none (some v))
    (hr : record? (names fields) (.object (before ++ after)) = some r) :
    ∃ r', record? (names fields) (.object (before ++ (some name, v) :: after)) = some r' ∧
      RecordEdit fields r r' := by
  obtain ⟨htexts, rfl, hnodup⟩ := record?_object_iff.mp hr
  have hname := not_mem_keys_known fields hmissing
  rw [List.filterMap_append] at hname hnodup ⊢
  refine ⟨_, record?_object_iff.mpr ⟨texts_insert_iff.mpr htexts,
    filterMap_known_of_mem (mem_names hfield), ?_⟩,
    recordEdit_written hnames hfield hname hv⟩
  exact nodup_keys_insert.mpr ⟨hname, hnodup⟩

/-- The member of a record that is given as an array, at the position of its field. -/
theorem zip_position {fields₁ fields₂ : List Field} {before after : List Json}
    (hlength : fields₁.length = before.length) :
    (names (fields₁ ++ (name, p, s) :: fields₂)).zip (before ++ v :: after) =
      (names fields₁).zip before ++ (name, v) :: (names fields₂).zip after := by
  rw [names, List.map_append, List.map_cons, List.zip_append (by rw [List.length_map, hlength]),
    List.zip_cons_cons]
  rfl

theorem not_mem_keys_zip {fields₁ fields₂ : List Field} {before : List Json}
    (hnames : (names (fields₁ ++ (name, p, s) :: fields₂)).Nodup)
    (hlength : fields₁.length = before.length) :
    name ∉ ((names fields₁).zip before).map Prod.fst := by
  rw [names, List.map_append, List.map_cons, List.nodup_middle, List.nodup_cons,
    List.mem_append, not_or] at hnames
  rw [List.map_fst_zip (by rw [names, List.length_map]; omega)]
  exact hnames.1.1

/-- What an edit of a record as a document does to the record: nothing is lost, and of each field
the record still says the same. -/
theorem record?_edit (hnames : (names fields).Nodup) {j j' : Json} (h : Edit (.record fields) j j')
    (hr : record? (names fields) j = some r) :
    ∃ r', record? (names fields) j' = some r' ∧ RecordEdit fields r r' := by
  cases h with
  | reorder hperm =>
      obtain ⟨htexts, rfl, hnodup⟩ := record?_object_iff.mp hr
      have hperm' := hperm.filterMap (known (names fields))
      refine ⟨_, record?_object_iff.mpr ⟨fun m hm => htexts m (hperm.mem_iff.mpr hm), rfl,
        (hperm'.map Prod.fst).nodup_iff.mp hnodup⟩, fun name p s _ => ?_⟩
      rw [lookup_perm hperm' hnodup]
      exact .same
  | addUnknown _ _ hkey =>
      obtain ⟨htexts, rfl, hnodup⟩ := record?_object_iff.mp hr
      exact ⟨_, record?_object_iff.mpr ⟨texts_insert_iff.mpr htexts,
        filterMap_known_of_not_mem hkey, hnodup⟩, recordEdit_refl⟩
  | changeUnknown _ hkey =>
      obtain ⟨htexts, rfl, hnodup⟩ := record?_object_iff.mp hr
      rw [filterMap_known_of_not_mem hkey] at hnodup ⊢
      exact ⟨_, record?_object_iff.mpr ⟨texts_insert_iff.mpr (texts_insert_iff.mp htexts),
        filterMap_known_of_not_mem hkey, hnodup⟩, recordEdit_refl⟩
  | writeDefault _ _ hfield hmissing =>
      exact record?_written hnames hfield hmissing (.default rfl) hr
  | writeNull _ _ hfield hmissing =>
      exact record?_written hnames hfield hmissing (.null rfl) hr
  | member _ hfield hv =>
      obtain ⟨htexts, rfl, hnodup⟩ := record?_object_iff.mp hr
      rw [filterMap_known_of_mem (mem_names hfield)] at hnodup ⊢
      have hkeys := nodup_keys_insert.mp hnodup
      refine ⟨_, record?_object_iff.mpr ⟨texts_insert_iff.mpr (texts_insert_iff.mp htexts),
        filterMap_known_of_mem (mem_names hfield), nodup_keys_insert.mpr hkeys⟩,
        recordEdit_value hnames hfield (fun hmem => hkeys.1 ?_) hv⟩
      rw [List.map_append]
      exact List.mem_append_left _ hmem
  | position _ hfields hlength hv =>
      subst hfields
      obtain ⟨hitems, rfl⟩ := record?_array_iff.mp hr
      refine ⟨_, record?_array_iff.mpr ⟨?_, rfl⟩, ?_⟩
      · rw [List.length_append] at hitems ⊢
        exact hitems
      · rw [zip_position hlength, zip_position hlength]
        exact recordEdit_value hnames (List.mem_append_right _ List.mem_cons_self)
          (not_mem_keys_zip hnames hlength) hv

/-- What a fault in a record as a document does to the record, if there still is one. -/
theorem recordSpoiled_of_spoiled (hnames : (names fields).Nodup) {j : Json}
    (h : Spoiled (.record fields) j) (hr : record? (names fields) j = some r) :
    RecordSpoiled fields r := by
  cases h with
  | null => cases hr
  | @repeated _ before middle after name v v' hname =>
      obtain ⟨-, rfl, hnodup⟩ := record?_object_iff.mp hr
      rw [filterMap_known_of_mem hname] at hnodup
      refine absurd (List.mem_map.mpr ⟨(name, v), ?_, rfl⟩) (nodup_keys_insert.mp hnodup).1
      rw [filterMap_known_of_mem hname]
      exact List.mem_append_left _ (List.mem_append_right _ List.mem_cons_self)
  | member hfield hmem hv hnull =>
      obtain ⟨-, rfl, hnodup⟩ := record?_object_iff.mp hr
      obtain ⟨before, after, rfl⟩ := List.append_of_mem hmem
      refine ⟨_, _, _, _, hfield, (lookup_eq_some_iff hnodup).mpr ?_, hv, hnull⟩
      rw [filterMap_known_of_mem (mem_names hfield)]
      exact List.mem_append_right _ List.mem_cons_self
  | position hfields hlength hv hnull =>
      subst hfields
      obtain ⟨-, rfl⟩ := record?_array_iff.mp hr
      refine ⟨_, _, _, _, List.mem_append_right _ List.mem_cons_self, ?_, hv, hnull⟩
      rw [zip_position hlength, lookup_insert (not_mem_keys_zip hnames hlength), if_pos rfl]

theorem respects_record {body : Record → Option α} (hnames : (names fields).Nodup)
    (hbody : FieldsReader fields body) :
    Respects (.record fields) fun j => (j.record? (names fields)).bind body where
  edit h := by
    intro a ha
    obtain ⟨r, hr, hra⟩ := Option.bind_eq_some_iff.mp ha
    obtain ⟨r', hr', hedit⟩ := record?_edit hnames h hr
    rw [hr', Option.bind_some]
    exact hbody.edit hedit a hra
  spoiled h := by
    rw [Option.bind_eq_none_iff]
    intro r hr
    exact hbody.spoiled (recordSpoiled_of_spoiled hnames h hr)

end Record

theorem Respects.edits {s : Shape} {read : Json → Option α} (h : Respects s read) {j j' : Json}
    (hedits : Relation.ReflTransGen (Edit s) j j') : Keeps (read j) (read j') := by
  induction hedits with
  | refl => exact .refl _
  | tail _ hedit ih => exact fun a ha => h.edit hedit a (ih a ha)

end LoadScenario.Json
