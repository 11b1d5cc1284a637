import LoadScenario.Text.Search

/-!
# Marked names

Both the texts that are read here and those that are written hold names between two marks. A name
begins behind the leftmost opening mark and runs to the first closing mark, and it never runs over
the end of a line: if the line ends first, the opening mark is plain text, and so is everything
behind it on that line.

One pass over a text finds all names. Inside of a name it keeps the characters read so far, and if
the line ends these become plain. Nothing is looked at twice, so a long text with many opening
marks and no closing one takes no longer than any other. `flatMap_source_pieces` says that nothing
is lost on the way: the pieces give the text back.
-/

namespace LoadScenario.Text

/-- The marks around a name. -/
structure Marks where
  opening : List Char
  closing : List Char
  opening_ne_nil : opening ≠ [] := by decide
  closing_ne_nil : closing ≠ [] := by decide

namespace Marks

/-- A name with the marks around it. -/
def around (m : Marks) (name : List Char) : List Char := m.opening ++ name ++ m.closing

/-- The text of a name, given in reverse, whose closing mark has not come yet. -/
def begun (m : Marks) : Option (List Char) → List Char
  | none => []
  | some name => m.opening ++ name.reverse

/-- The pieces of a text of which some characters belong to a mark that has been read. If the text
starts inside of a name, the characters of the name so far are given in reverse. -/
def piecesFrom (m : Marks) :
    (skip : Nat) → (name : Option (List Char)) → List Char → List (Piece (List Char))
  | _, name, [] => (m.begun name).map .plain
  | skip + 1, name, _ :: cs => piecesFrom m skip name cs
  | 0, none, c :: cs =>
    if (expect m.opening (c :: cs)).isSome then
      piecesFrom m (m.opening.length - 1) (some []) cs
    else
      .plain c :: piecesFrom m 0 none cs
  | 0, some name, c :: cs =>
    if (expect m.closing (c :: cs)).isSome then
      .found name.reverse (m.around name.reverse) ::
        piecesFrom m (m.closing.length - 1) none cs
    else if c = '\n' then
      (m.begun (some (c :: name))).map .plain ++ piecesFrom m 0 none cs
    else
      piecesFrom m 0 (some (c :: name)) cs

/-- The pieces of a text: the marked names and the characters outside of them. -/
def pieces (m : Marks) (cs : List Char) : List (Piece (List Char)) := m.piecesFrom 0 none cs

theorem flatMap_source_map_plain (cs : List Char) :
    (cs.map (Piece.plain (α := List Char))).flatMap Piece.source = cs := by
  induction cs with
  | nil => rfl
  | cons c cs ih => simpa [Piece.source] using ih

/-- A mark that has been read is at the front of the text, and the rest is what is behind it. -/
theorem append_drop_of_expect {mark cs : List Char} {c : Char} (hmark : mark ≠ [])
    (h : (expect mark (c :: cs)).isSome) : mark ++ cs.drop (mark.length - 1) = c :: cs := by
  obtain ⟨rest, hrest⟩ := Option.isSome_iff_exists.mp h
  cases mark with
  | nil => exact absurd rfl hmark
  | cons w ws =>
    obtain ⟨rfl, rfl⟩ := List.cons.inj (expect_eq_some_iff.mp hrest)
    simp

/-- Nothing is lost between the pieces. -/
theorem flatMap_source_piecesFrom (m : Marks) (skip : Nat) (name : Option (List Char))
    (cs : List Char) :
    (m.piecesFrom skip name cs).flatMap Piece.source = m.begun name ++ cs.drop skip := by
  fun_induction piecesFrom m skip name cs with
  | case1 => simp [flatMap_source_map_plain]
  | case2 _ _ _ _ ih => simpa using ih
  | case3 c cs h ih =>
    simpa [begun, append_drop_of_expect m.opening_ne_nil h] using ih
  | case4 c cs _ ih => simpa [Piece.source, begun] using ih
  | case5 name c cs h ih =>
    simp [Piece.source, begun, around, ih, append_drop_of_expect m.closing_ne_nil h]
  | case6 name cs _ ih =>
    rw [List.flatMap_append, flatMap_source_map_plain, ih]
    simp [begun]
  | case7 name c cs _ _ ih => simpa [begun] using ih

theorem flatMap_source_pieces (m : Marks) (cs : List Char) :
    (m.pieces cs).flatMap Piece.source = cs :=
  m.flatMap_source_piecesFrom 0 none cs

/-- The marked names in a text, from left to right. -/
def names (m : Marks) (cs : List Char) : List (List Char) := (m.pieces cs).filterMap Piece.value?

/-- The text with each marked name replaced together with its marks. -/
def replaceNames (m : Marks) (replacement : List Char → List Char) (cs : List Char) : List Char :=
  (m.pieces cs).flatMap (Piece.replaced replacement)

end Marks

end LoadScenario.Text
