import LoadScenario.Text.Marked

/-!
# Placeholders and references

A request collection writes a variable as a placeholder, its name between two pairs of braces. A
scenario writes the same variable as a reference, a dollar sign and the name in one pair of braces.
Both end at the first closing brace or pair of braces, and neither runs over the end of a line, so
an opening that is never closed changes nothing.
-/

namespace LoadScenario

open Text

/-- The marks of a placeholder. -/
def placeholder : Marks where
  opening := ['\x7b', '\x7b']
  closing := ['\x7d', '\x7d']

/-- The marks of a reference. -/
def reference : Marks where
  opening := ['$', '\x7b']
  closing := ['\x7d']

/-- Writes every placeholder as a reference. -/
def translate (s : String) : String :=
  String.ofList (placeholder.replaceNames reference.around s.toList)

/-- The names that a text refers to, from left to right. -/
def references (s : String) : List String := (reference.names s.toList).map String.ofList

end LoadScenario
