import LoadScenario.Feeder
import LoadScenario.Proofs.DocumentReading
import Mathlib.Data.List.DropRight

/-!
# What the document of a feeder says

The document that goes along with a scenario is all that the scenario ever sees of its variables. It
is read by others, so it has to say the same to every reader of JSON: one record, with the variables
as its members, in the order of the feeder and with nothing lost of the keys and values, whatever
characters they have. Only the newline at the end is not the printer's, and a reader passes over it.
-/

namespace LoadScenario.Feeder

open Json

variable {f g : Feeder}

/-- The one record of the document: a member for each variable. -/
def members (f : Feeder) : List (Json.Text × Json) :=
  f.toList.map fun (key, value) => (some key, .string (some value))

theorem toJson_eq (f : Feeder) : f.toJson = .array [.object f.members] := by
  rw [toJson, ofMembers, List.map_map, members]
  rfl

theorem numeric_toJson (f : Feeder) : f.toJson.Numeric := by
  refine numericItems_of_forall (List.forall_mem_singleton.mpr (numeric_ofMembers ?_))
  rw [List.forall_mem_map]
  exact fun _ _ => numeric_ofString _

theorem document_eq (f : Feeder) :
    f.document = String.ofList (write .indented 0 f.toJson ++ ['\n']) := by
  rw [document, pretty, String.ofList_append]

theorem read?_document (f : Feeder) : read? f.document = some f.toJson := by
  have hnewline : ∀ c ∈ ['\n'], isSpace c := List.forall_mem_singleton.mpr rfl
  rw [document_eq]
  exact read?_write_append indented_blank 0 f.numeric_toJson hnewline

/-- A document is over with the bracket that closes it. -/
theorem exists_toList_document (f : Feeder) :
    ∃ front, f.document.toList = front ++ [']'] ++ ['\n'] := by
  rw [document_eq, String.toList_ofList, toJson_eq, write]
  exact ⟨'[' :: _, rfl⟩

theorem eq_of_members_eq (h : f.members = g.members) : f = g := by
  have hinjective : Function.Injective fun entry : String × String =>
      ((some entry.1, .string (some entry.2)) : Json.Text × Json) := by
    rintro ⟨key, value⟩ ⟨key', value'⟩ heq
    cases heq
    rfl
  have hentries := List.map_injective_iff.mpr hinjective h
  cases f
  cases g
  exact congrArg mk (OrderedMap.ext_entries hentries)

/-- The document of a feeder ends with one newline, and it is read as one record that has the
variables with their values as members, in order. So no two feeders have the same document. -/
theorem document_reads_back (f : Feeder) :
    f.document.toList.rtakeWhile (· = '\n') = ['\n'] ∧
    read? f.document = some (.array [.object
      (f.toList.map fun (key, value) => (some key, .string (some value)))]) ∧
    ∀ g : Feeder, g.document = f.document → g = f := by
  refine ⟨?_, ?_, fun g h => ?_⟩
  · obtain ⟨front, hdocument⟩ := f.exists_toList_document
    rw [hdocument, List.rtakeWhile_concat_pos _ _ _ rfl,
      List.rtakeWhile_concat_neg _ _ _ (by decide), List.nil_append]
  · rw [read?_document, toJson_eq, members]
  · have hread := g.read?_document
    rw [h, read?_document, toJson_eq, toJson_eq] at hread
    have hmembers : f.members = g.members := by
      injection hread with harray
      injection harray with hitems
      injection hitems with hobject
      injection hobject
    exact (eq_of_members_eq hmembers).symm

/-- The empty key, quotes, backslashes, ends of lines and control characters, and no variable at
all. -/
example : (⟨.ofList [("", "\"\\"), ("\n", "\x00\x7f")]⟩ : Feeder).document =
      "[\n  \x7b\n    \"\": \"\\\"\\\\\",\n    \"\\n\": \"\\u0000\x7f\"\n  \x7d\n]\n" ∧
    Feeder.empty.document = "[\n  \x7b\x7d\n]\n" := by
  decide

end LoadScenario.Feeder
