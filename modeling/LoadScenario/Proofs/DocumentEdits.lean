import LoadScenario.Collection.Document
import LoadScenario.Environment
import LoadScenario.Proofs.JsonReading
import LoadScenario.Proofs.RecordEdits

/-!
# Documents that say the same

The shapes of the two documents, next to their readers. A field is required, or it stands for a
value when it is left out, or it is optional; a shape says which, and each reader respects its
shape, which a reader that mixed them up would not.

So a collection and an environment can be told in many ways that are read alike, and what leaves
open what it says is refused wherever it stands.
-/

namespace LoadScenario

open Json

theorem respects_string : Respects .leaf string? := respects_leaf rfl

theorem respects_bool : Respects .leaf bool? := respects_leaf rfl

/-- Credentials as a document: what is left out is empty. -/
def Credentials.shape : Shape :=
  .record [("username", .default (.ofString ""), .leaf),
    ("password", .default (.ofString ""), .leaf)]

theorem Credentials.respects_ofJson? : Respects shape ofJson? := by
  refine respects_record (by decide) ?_
  refine .withDefault respects_string rfl fun username => ?_
  refine .withDefault respects_string rfl fun password => ?_
  exact .nil _

/-- A request as a document. -/
def RequestRecord.shape : Shape :=
  .record [("id", .required, .leaf), ("name", .required, .leaf), ("method", .required, .leaf),
    ("url", .required, .leaf), ("headers", .default (.ofString ""), .leaf),
    ("dataMode", .optional, .leaf), ("rawModeData", .optional, .leaf),
    ("currentHelper", .optional, .leaf), ("helperAttributes", .optional, Credentials.shape),
    ("tests", .optional, .leaf)]

theorem RequestRecord.respects_ofJson? : Respects shape ofJson? := by
  refine respects_record (by decide) ?_
  refine .required respects_string fun id => ?_
  refine .required respects_string fun name => ?_
  refine .required respects_string fun method => ?_
  refine .required respects_string fun url => ?_
  refine .withDefault respects_string rfl fun headers => ?_
  refine .optional respects_string fun bodyMode => ?_
  refine .optional respects_string fun rawBody => ?_
  refine .optional respects_string fun helper => ?_
  refine .optional Credentials.respects_ofJson? fun credentials => ?_
  refine .optional respects_string fun tests => ?_
  exact .nil _

/-- A folder as a document. -/
def Folder.shape : Shape :=
  .record [("name", .required, .leaf), ("order", .default (.array []), .list .leaf)]

theorem Folder.respects_ofJson? : Respects shape ofJson? := by
  refine respects_record (by decide) ?_
  refine .required respects_string fun name => ?_
  refine .withDefault (respects_list respects_string) rfl fun order => ?_
  exact .nil _

/-- A collection as a document. -/
def Collection.shape : Shape :=
  .record [("name", .required, .leaf), ("folders", .default (.array []), .list Folder.shape),
    ("requests", .default (.array []), .list RequestRecord.shape),
    ("order", .default (.array []), .list .leaf)]

theorem Collection.respects_ofJson? : Respects shape ofJson? := by
  refine respects_record (by decide) ?_
  refine .required respects_string fun name => ?_
  refine .withDefault (respects_list Folder.respects_ofJson?) rfl fun folders => ?_
  refine .withDefault (respects_list RequestRecord.respects_ofJson?) rfl fun requests => ?_
  refine .withDefault (respects_list respects_string) rfl fun order => ?_
  exact .nil _

/-- A declaration as a document; it counts only if it says so. -/
def Variable.shape : Shape :=
  .record [("key", .required, .leaf), ("value", .default (.ofString ""), .leaf),
    ("enabled", .default (.bool false), .leaf)]

theorem Variable.respects_ofJson? : Respects shape ofJson? := by
  refine respects_record (by decide) ?_
  refine .required respects_string fun key => ?_
  refine .withDefault respects_string rfl fun value => ?_
  refine .withDefault respects_bool rfl fun enabled => ?_
  exact .nil _

/-- An environment as a document. -/
def Environment.shape : Shape :=
  .record [("values", .default (.array []), .list Variable.shape)]

theorem Environment.respects_ofJson? : Respects shape ofJson? := by
  have hbody : FieldsReader [("values", .default (.array []), .list Variable.shape)] fun r =>
      (r.withDefault "values" (list? Variable.ofJson?) []).bind fun values => some values :=
    .withDefault (respects_list Variable.respects_ofJson?) rfl fun values => .nil _
  simp only [Option.bind_fun_some] at hbody
  exact respects_record (by decide) hbody

/-- Edits keep what a document says, and a document that leaves it open is not read. -/
theorem documents_tolerate_edits {text text' : String} {j j' : Json}
    (hj : Json.read? text = some j) (hj' : Json.read? text' = some j') :
    ((Relation.ReflTransGen (Edit Collection.shape) j j' →
        ∀ c, Collection.read? text = some c → Collection.read? text' = some c) ∧
      (Spoiled Collection.shape j' → Collection.read? text' = none)) ∧
    ((Relation.ReflTransGen (Edit Environment.shape) j j' →
        ∀ e, Environment.read? text = some e → Environment.read? text' = some e) ∧
      (Spoiled Environment.shape j' → Environment.read? text' = none)) := by
  rw [Collection.read?, Collection.read?, Environment.read?, Environment.read?, hj, hj']
  exact ⟨⟨Collection.respects_ofJson?.edits, Collection.respects_ofJson?.spoiled⟩,
    ⟨Environment.respects_ofJson?.edits, Environment.respects_ofJson?.spoiled⟩⟩

/-- A collection with one request, which leaves out what it can. -/
def petsExport : Json :=
  .ofMembers [("name", .ofString "Pets"), ("requests", .array [.ofMembers [
    ("id", .ofString "1"), ("name", .ofString "List"), ("method", .ofString "GET"),
    ("url", .ofString "/pets")]])]

/-- The same collection in another order, with a default and a null written out and with a member
that nobody knows. -/
def petsRetold : Json :=
  .ofMembers [("requests", .array [.ofMembers [
    ("id", .ofString "1"), ("tests", .null), ("name", .ofString "List"),
    ("method", .ofString "GET"), ("url", .ofString "/pets")]]),
    ("owner", .array [.null, .object [(none, .string none)]]), ("order", .array []),
    ("name", .ofString "Pets")]

/-- An environment whose declaration leaves out what it can. -/
def hostExport : Json := .ofMembers [("values", .array [.ofMembers [("key", .ofString "host")]])]

/-- A declaration that gives its key twice. -/
def hostRepeated : Json :=
  .ofMembers [("values", .array [.ofMembers [("key", .ofString "host"), ("value", .ofString "h"),
    ("key", .ofString "host")]])]

theorem petsRetold_edits :
    Relation.ReflTransGen (Edit Collection.shape) petsExport petsRetold := by
  refine .head (.reorder (.swap _ _ [])) ?_
  refine .head (.member [] (p := .default (.array [])) (s := .list RequestRecord.shape) (by simp)
    (.item [] (.writeNull [(some "id", .ofString "1")] "tests" (s := .leaf) (by simp) ?_))) ?_
  · simp
  refine .head (.writeDefault [(some "requests", _)] "order" (v := .array [])
    (s := .list .leaf) (by simp) ?_) ?_
  · simp
  exact .single (.addUnknown [(some "requests", _)] "owner" (by decide))

theorem hostRepeated_spoiled : Spoiled Environment.shape hostRepeated := by
  have hkey : Spoiled Variable.shape (.ofMembers [("key", .ofString "host"),
      ("value", .ofString "h"), ("key", .ofString "host")]) :=
    .repeated [] [(some "value", .ofString "h")] (by decide)
  exact .member List.mem_cons_self List.mem_cons_self (.item List.mem_cons_self hkey)
    (fun h => by cases h)

theorem documents_tolerate_edits_pets :
    (∃ c, Collection.read? petsExport.compact = some c ∧
      Collection.read? petsRetold.compact = some c) ∧
    Environment.read? hostRepeated.compact = none := by
  have hexport : Json.read? petsExport.compact = some petsExport :=
    read?_compact (by simp [petsExport, ofMembers, ofString, Numeric, NumericItems, NumericMembers])
  have hretold : Json.read? petsRetold.compact = some petsRetold :=
    read?_compact (by simp [petsRetold, ofMembers, ofString, Numeric, NumericItems, NumericMembers])
  have hhost : Json.read? hostExport.compact = some hostExport :=
    read?_compact (by simp [hostExport, ofMembers, ofString, Numeric, NumericItems, NumericMembers])
  have hrepeated : Json.read? hostRepeated.compact = some hostRepeated :=
    read?_compact
      (by simp [hostRepeated, ofMembers, ofString, Numeric, NumericItems, NumericMembers])
  have hread : ∃ c, Collection.read? petsExport.compact = some c := by
    rw [Collection.read?, hexport]
    exact ⟨_, rfl⟩
  obtain ⟨c, hc⟩ := hread
  exact ⟨⟨c, hc, (documents_tolerate_edits hexport hretold).1.1 petsRetold_edits c hc⟩,
    (documents_tolerate_edits hhost hrepeated).2.2 hostRepeated_spoiled⟩

end LoadScenario
