import LoadScenario.Collection.Document
import LoadScenario.Environment
import LoadScenario.Proofs.JsonReading

/-!
# Documents are read back

A collection and an environment can be written as well as read, and the two are declared apart: the
writer leaves out what is not there, and the reader fills in what was left out. They have to agree
on every key, on every default and on the difference between an empty text and an absent one.

What decides it is the lookup. A record that was written with known keys in the order of declaration
is read as the list of its members, so each field is one lookup in a list that the writer put
together. The rest is one lemma for each kind of field.
-/

namespace LoadScenario

namespace Json

/-! ## Records -/

theorem knownMembers_map {names : List String} {members : List (String × Json)}
    (h : ∀ m ∈ members, m.1 ∈ names) :
    knownMembers names (members.map fun (key, value) => (some key, value)) = some members := by
  induction members with
  | nil => rfl
  | cons m members ih =>
      obtain ⟨hm, hmembers⟩ := List.forall_mem_cons.mp h
      rw [List.map_cons, knownMembers, ih hmembers, Option.map_some, if_pos hm]

/-- Members with known keys in the order of declaration are the record that they are read as. -/
theorem record?_ofMembers {names : List String} {members : List (String × Json)}
    (hnames : names.Nodup) (hkeys : (members.map Prod.fst).Sublist names) :
    record? names (.ofMembers members) = some members := by
  have hknown : ∀ m ∈ members, m.1 ∈ names := fun m hm =>
    hkeys.subset (List.mem_map_of_mem hm)
  rw [ofMembers, record?, knownMembers_map hknown]
  exact if_pos (hnames.sublist hkeys)

section Fields

variable {α : Type} {r : Record} {name : String} {read : Json → Option α} {value : α → Json}

theorem required_value (hread : ∀ a, read (value a) = some a) {a : α}
    (h : r.lookup name = some (value a)) : r.required name read = some a := by
  rw [Record.required, h, Option.bind_some, hread]

theorem withDefault_value (hread : ∀ a, read (value a) = some a) {a default : α}
    (h : r.lookup name = some (value a)) : r.withDefault name read default = some a := by
  rw [Record.withDefault, h]
  exact hread a

/-- An optional field is read back if null is not how one of its values is written. -/
theorem optional_value (hread : ∀ a, read (value a) = some a) (hnull : ∀ a, value a ≠ .null)
    {o : Option α} (h : r.lookup name = o.map value) : r.optional name read = some o := by
  rw [Record.optional, h]
  cases o with
  | none => rfl
  | some a =>
      rw [Option.map_some]
      split
      next heq => cases heq
      next heq => exact absurd (Option.some.inj heq) (hnull a)
      next heq =>
        cases heq
        rw [hread, Option.map_some]

end Fields

@[simp] theorem string?_ofString (s : String) : (ofString s).string? = some s := rfl

theorem list?_ofList {α : Type} {read : Json → Option α} {value : α → Json}
    (hread : ∀ a, read (value a) = some a) (l : List α) :
    list? read (ofList value l) = some l := by
  rw [ofList, list?]
  induction l with
  | nil => rfl
  | cons a l ih =>
      rw [List.map_cons, List.mapM_cons, hread, ih]
      rfl

/-! ## Values without numbers

A number is the one value that is written as it is kept, so it has to be spelled like a number to
be found again. What is built from texts, truth values, lists and members has none. -/

theorem numericItems_of_forall {items : List Json} (h : ∀ j ∈ items, j.Numeric) :
    NumericItems items := by
  induction items with
  | nil => trivial
  | cons j items ih =>
      obtain ⟨hj, hitems⟩ := List.forall_mem_cons.mp h
      exact ⟨hj, ih hitems⟩

theorem numericMembers_of_forall {members : List (Json.Text × Json)}
    (h : ∀ m ∈ members, m.2.Numeric) : NumericMembers members := by
  induction members with
  | nil => trivial
  | cons m members ih =>
      obtain ⟨hm, hmembers⟩ := List.forall_mem_cons.mp h
      exact ⟨hm, ih hmembers⟩

@[simp] theorem numeric_ofString (s : String) : (ofString s).Numeric := trivial

theorem numeric_ofList {α : Type} {value : α → Json} (h : ∀ a, (value a).Numeric) (l : List α) :
    (ofList value l).Numeric := by
  refine numericItems_of_forall fun j hj => ?_
  obtain ⟨a, -, rfl⟩ := List.mem_map.mp hj
  exact h a

theorem numeric_ofMembers {members : List (String × Json)} (h : ∀ m ∈ members, m.2.Numeric) :
    (ofMembers members).Numeric := by
  refine numericMembers_of_forall fun m hm => ?_
  obtain ⟨m', hm', rfl⟩ := List.mem_map.mp hm
  exact h m' hm'

end Json

open Json

/-! ## Credentials, folders and variables

Every field is written, so the lookups find their values by computation. -/

theorem Credentials.ofJson?_toJson (c : Credentials) : ofJson? c.toJson = some c := by
  have hrecord : record? ["username", "password"] c.toJson =
      some [("username", .ofString c.username), ("password", .ofString c.password)] :=
    record?_ofMembers (by decide) (List.Sublist.refl _)
  simp [ofJson?, hrecord, Record.withDefault, List.lookup_cons]

theorem Folder.ofJson?_toJson (f : Folder) : ofJson? f.toJson = some f := by
  have hrecord : record? ["name", "order"] f.toJson =
      some [("name", .ofString f.name), ("order", .ofList .ofString f.order)] :=
    record?_ofMembers (by decide) (List.Sublist.refl _)
  simp [ofJson?, hrecord, Record.required, Record.withDefault, List.lookup_cons,
    list?_ofList string?_ofString]

theorem Variable.ofJson?_toJson (v : Variable) : ofJson? v.toJson = some v := by
  have hrecord : record? ["key", "value", "enabled"] v.toJson =
      some [("key", .ofString v.key), ("value", .ofString v.value),
        ("enabled", .bool v.enabled)] :=
    record?_ofMembers (by decide) (List.Sublist.refl _)
  simp [ofJson?, hrecord, Record.required, Record.withDefault, List.lookup_cons, bool?]

theorem Credentials.numeric_toJson (c : Credentials) : c.toJson.Numeric :=
  numeric_ofMembers (by simp)

theorem Folder.numeric_toJson (f : Folder) : f.toJson.Numeric :=
  numeric_ofMembers (by simp [numeric_ofList numeric_ofString])

theorem Variable.numeric_toJson (v : Variable) : v.toJson.Numeric :=
  numeric_ofMembers (by simp [Numeric])

/-! ## Requests

The optional fields of a request are written only if they are there. The keys that are written are
still in the order of declaration, and no field is shadowed by another one's member. -/

namespace RequestRecord

/-- The members of a request. -/
def members (r : RequestRecord) : List (String × Json) :=
  [("id", .ofString r.id), ("name", .ofString r.name), ("method", .ofString r.method),
    ("url", .ofString r.url), ("headers", .ofString r.headers)] ++
  optionalMember "dataMode" .ofString r.bodyMode ++
  optionalMember "rawModeData" .ofString r.rawBody ++
  optionalMember "currentHelper" .ofString r.helper ++
  optionalMember "helperAttributes" Credentials.toJson r.credentials ++
  optionalMember "tests" .ofString r.tests

theorem toJson_eq (r : RequestRecord) : r.toJson = .ofMembers r.members := rfl

section OptionalMember

variable {α : Type}

theorem keys_optionalMember (key : String) (value : α → Json) (o : Option α) :
    ((optionalMember key value o).map Prod.fst).Sublist [key] := by
  cases o with
  | none => exact List.nil_sublist _
  | some a => exact List.Sublist.refl _

theorem lookup_optionalMember (name key : String) (value : α → Json) (o : Option α) :
    (optionalMember key value o).lookup name = if name = key then o.map value else none := by
  cases o with
  | none => simp [optionalMember]
  | some a =>
      by_cases h : name = key
      · simp [optionalMember, h]
      · simp [optionalMember, List.lookup_cons, beq_false_of_ne h, h]

theorem numeric_optionalMember {key : String} {value : α → Json} {o : Option α}
    (h : ∀ a, (value a).Numeric) : ∀ m ∈ optionalMember key value o, m.2.Numeric := by
  cases o with
  | none => simp [optionalMember]
  | some a => simp [optionalMember, h]

end OptionalMember

theorem keys_members (r : RequestRecord) : (r.members.map Prod.fst).Sublist keys := by
  simp only [members, List.map_append]
  exact (((((List.Sublist.refl ["id", "name", "method", "url", "headers"]).append
    (keys_optionalMember "dataMode" _ _)).append
    (keys_optionalMember "rawModeData" _ _)).append
    (keys_optionalMember "currentHelper" _ _)).append
    (keys_optionalMember "helperAttributes" _ _)).append
    (keys_optionalMember "tests" _ _)

theorem ofJson?_toJson (r : RequestRecord) : ofJson? r.toJson = some r := by
  have hid : Record.required r.members "id" string? = some r.id :=
    required_value string?_ofString rfl
  have hname : Record.required r.members "name" string? = some r.name :=
    required_value string?_ofString rfl
  have hmethod : Record.required r.members "method" string? = some r.method :=
    required_value string?_ofString rfl
  have hurl : Record.required r.members "url" string? = some r.url :=
    required_value string?_ofString rfl
  have hheaders : Record.withDefault r.members "headers" string? "" = some r.headers :=
    withDefault_value string?_ofString rfl
  have htext : ∀ s, ofString s ≠ .null := fun _ => Json.noConfusion
  have hbodyMode : Record.optional r.members "dataMode" string? = some r.bodyMode :=
    optional_value string?_ofString htext (by
      simp [members, List.lookup_append, lookup_optionalMember, List.lookup_cons])
  have hrawBody : Record.optional r.members "rawModeData" string? = some r.rawBody :=
    optional_value string?_ofString htext (by
      simp [members, List.lookup_append, lookup_optionalMember, List.lookup_cons])
  have hhelper : Record.optional r.members "currentHelper" string? = some r.helper :=
    optional_value string?_ofString htext (by
      simp [members, List.lookup_append, lookup_optionalMember, List.lookup_cons])
  have hcredentials :
      Record.optional r.members "helperAttributes" Credentials.ofJson? = some r.credentials :=
    optional_value Credentials.ofJson?_toJson (fun _ => Json.noConfusion) (by
      simp [members, List.lookup_append, lookup_optionalMember, List.lookup_cons])
  have htests : Record.optional r.members "tests" string? = some r.tests :=
    optional_value string?_ofString htext (by
      simp [members, List.lookup_append, lookup_optionalMember, List.lookup_cons])
  rw [ofJson?, toJson_eq, record?_ofMembers (by decide) r.keys_members]
  simp [hid, hname, hmethod, hurl, hheaders, hbodyMode, hrawBody, hhelper, hcredentials, htests]

theorem numeric_toJson (r : RequestRecord) : r.toJson.Numeric := by
  refine numeric_ofMembers fun m hm => ?_
  simp only [List.mem_append] at hm
  obtain ((((hm | hm) | hm) | hm) | hm) | hm := hm
  · revert m
    simp
  · exact numeric_optionalMember numeric_ofString m hm
  · exact numeric_optionalMember numeric_ofString m hm
  · exact numeric_optionalMember numeric_ofString m hm
  · exact numeric_optionalMember Credentials.numeric_toJson m hm
  · exact numeric_optionalMember numeric_ofString m hm

end RequestRecord

/-! ## Documents -/

theorem Collection.ofJson?_toJson (c : Collection) : ofJson? c.toJson = some c := by
  have hrecord : record? ["name", "folders", "requests", "order"] c.toJson =
      some [("name", .ofString c.name), ("folders", .ofList Folder.toJson c.folders),
        ("requests", .ofList RequestRecord.toJson c.requests),
        ("order", .ofList .ofString c.order)] :=
    record?_ofMembers (by decide) (List.Sublist.refl _)
  simp [ofJson?, hrecord, Record.required, Record.withDefault, List.lookup_cons,
    list?_ofList string?_ofString, list?_ofList Folder.ofJson?_toJson,
    list?_ofList RequestRecord.ofJson?_toJson]

theorem Environment.ofJson?_toJson (e : Environment) : ofJson? e.toJson = some e := by
  have hrecord : record? ["values"] e.toJson = some [("values", .ofList Variable.toJson e)] :=
    record?_ofMembers (by decide) (List.Sublist.refl _)
  simp [ofJson?, hrecord, Record.withDefault, list?_ofList Variable.ofJson?_toJson]

theorem Collection.numeric_toJson (c : Collection) : c.toJson.Numeric :=
  numeric_ofMembers (by
    simp [numeric_ofList numeric_ofString, numeric_ofList Folder.numeric_toJson,
      numeric_ofList RequestRecord.numeric_toJson])

theorem Environment.numeric_toJson (e : Environment) : e.toJson.Numeric :=
  numeric_ofMembers (by simp [numeric_ofList Variable.numeric_toJson])

theorem Collection.read?_compact (c : Collection) : read? c.toJson.compact = some c := by
  rw [read?, Json.read?_compact c.numeric_toJson]
  exact c.ofJson?_toJson

theorem Environment.read?_compact (e : Environment) : read? (toJson e).compact = some e := by
  rw [read?, Json.read?_compact (numeric_toJson e)]
  exact ofJson?_toJson e

/-- Writing a document loses nothing: a collection and an environment are what their texts are read
as, on one line or with a line for each item. -/
theorem documents_read_back (c : Collection) (e : Environment) :
    (Collection.read? c.toJson.compact = some c ∧ Collection.read? c.toJson.pretty = some c) ∧
      (Environment.read? e.toJson.compact = some e ∧
        Environment.read? e.toJson.pretty = some e) := by
  refine ⟨⟨?_, ?_⟩, ⟨?_, ?_⟩⟩
  · rw [Collection.read?, read?_compact c.numeric_toJson]
    exact c.ofJson?_toJson
  · rw [Collection.read?, read?_pretty c.numeric_toJson]
    exact c.ofJson?_toJson
  · rw [Environment.read?, read?_compact (Environment.numeric_toJson e)]
    exact Environment.ofJson?_toJson e
  · rw [Environment.read?, read?_pretty (Environment.numeric_toJson e)]
    exact Environment.ofJson?_toJson e

end LoadScenario
