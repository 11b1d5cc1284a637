/-!
# Searching a text

Calls in a test script and parameters of a header are all found in the same way: from left to
right, the leftmost place that is recognised is a match, and the search goes on behind it. What is
recognised at a place is a function of its own for each idiom, a `Recognizer`; this module is the
search.

A search cuts the text into pieces, the characters it passed over and the matches, and nothing is
lost between them. Whatever is done with the matches is then a plain function on the pieces. The
number of characters still to be skipped is an argument of the loop, so that the loop goes down
the text one character at a time and needs no measure. Where only the first match counts there is
nothing to skip, and no pieces are made.
-/

namespace LoadScenario.Text

/-- Tries to recognise something at one place of a text, given the character before the place and
the text from there. The answer holds what was recognised and the text behind it. -/
abbrev Recognizer (α : Type) := Option Char → List Char → Option (α × List Char)

/-- A part of a searched text: a character that starts no match, or a match with its source. -/
inductive Piece (α : Type) where
  | plain (c : Char)
  | found (value : α) (source : List Char)

namespace Piece

variable {α : Type}

/-- What a match stands for. -/
def value? : Piece α → Option α
  | plain _ => none
  | found a _ => some a

/-- The characters of a piece. -/
def source : Piece α → List Char
  | plain c => [c]
  | found _ s => s

/-- The characters that stand for a piece once the matches are replaced. -/
def replaced (replacement : α → List Char) : Piece α → List Char
  | plain c => [c]
  | found a _ => replacement a

end Piece

/-- The number of bytes that a text takes in UTF-8. -/
def byteLength : List Char → Nat
  | [] => 0
  | c :: cs => c.utf8Size + byteLength cs

section

variable {α : Type} (recognize : Recognizer α)

/-- The pieces of a text of which some characters belong to the match before it. -/
def piecesFrom : (skip : Nat) → (previous : Option Char) → List Char → List (Piece α)
  | _, _, [] => []
  | skip + 1, _, c :: cs => piecesFrom skip (some c) cs
  | 0, previous, c :: cs =>
    match recognize previous (c :: cs) with
    | none => .plain c :: piecesFrom 0 (some c) cs
    | some (a, rest) =>
      let skip := cs.length - rest.length
      .found a (c :: cs.take skip) :: piecesFrom skip (some c) cs

/-- The pieces of a text. -/
def pieces (cs : List Char) : List (Piece α) := piecesFrom recognize 0 none cs

/-- Nothing is lost between the pieces. -/
theorem flatMap_source_piecesFrom (skip : Nat) (previous : Option Char) (cs : List Char) :
    (piecesFrom recognize skip previous cs).flatMap Piece.source = cs.drop skip := by
  fun_induction piecesFrom recognize skip previous cs with
  | case1 => simp
  | case2 _ _ _ _ ih => simpa using ih
  | case3 _ c cs _ ih => simpa [Piece.source] using ih
  | case4 _ c cs a rest _ skip ih => simp [Piece.source, ih, List.take_append_drop]

theorem flatMap_source_pieces (cs : List Char) :
    (pieces recognize cs).flatMap Piece.source = cs :=
  flatMap_source_piecesFrom recognize 0 none cs

/-- The matches in a text, from left to right. -/
def findAll (cs : List Char) : List α := (pieces recognize cs).filterMap Piece.value?

/-- The first match in a text that a given character precedes. -/
def findFrom (previous : Option Char) : List Char → Option α
  | [] => none
  | c :: cs =>
    match recognize previous (c :: cs) with
    | none => findFrom (some c) cs
    | some (a, _) => some a

/-- The first match in a text. -/
def find? (cs : List Char) : Option α := findFrom recognize none cs

theorem findSome?_value?_piecesFrom (previous : Option Char) (cs : List Char) :
    (piecesFrom recognize 0 previous cs).findSome? Piece.value? =
      findFrom recognize previous cs := by
  fun_induction findFrom recognize previous cs with
  | case1 => simp [piecesFrom]
  | case2 _ c cs h ih => simp [piecesFrom, h, List.findSome?_cons, Piece.value?, ih]
  | case3 _ c cs a rest h => simp [piecesFrom, h, List.findSome?_cons, Piece.value?]

/-- Whether a text has a match. -/
def occursIn (cs : List Char) : Bool := (find? recognize cs).isSome

end

/-- The matches among pieces, each with its distance in bytes from the start of the text, if the
first piece is at the given distance. -/
def locate {α : Type} : (offset : Nat) → List (Piece α) → List (Nat × α)
  | _, [] => []
  | offset, p :: ps =>
    let later := locate (offset + byteLength p.source) ps
    match p.value? with
    | some a => (offset, a) :: later
    | none => later

/-- The first characters of a text that take a given number of bytes; none if the text is shorter
or a character stands across the border. -/
def takeBytes? : Nat → List Char → Option (List Char)
  | 0, _ => some []
  | _ + 1, [] => none
  | n + 1, c :: cs =>
    if c.utf8Size ≤ n + 1 then (takeBytes? (n + 1 - c.utf8Size) cs).map (c :: ·) else none

/-! ## Recognising fixed parts -/

/-- The text behind a given word. -/
def expect : (word text : List Char) → Option (List Char)
  | [], cs => some cs
  | _ :: _, [] => none
  | w :: ws, c :: cs => if c = w then expect ws cs else none

theorem expect_eq_some_iff {w text rest : List Char} :
    expect w text = some rest ↔ text = w ++ rest := by
  fun_induction expect w text with
  | case1 => simp [eq_comm]
  | case2 => simp
  | case3 w ws cs ih => simp [ih]
  | case4 w ws c cs h => simp [h]

/-- The text behind a given word in any case; the word is in lower case. -/
def expectAnyCase : (word text : List Char) → Option (List Char)
  | [], cs => some cs
  | _ :: _, [] => none
  | w :: ws, c :: cs => if c.toLower = w then expectAnyCase ws cs else none

/-- The text up to a closing word on the same line, and the text behind that word. -/
def upTo (closing : List Char) : List Char → Option (List Char × List Char)
  | [] => none
  | c :: cs =>
    match expect closing (c :: cs) with
    | some rest => some ([], rest)
    | none =>
      if c = '\n' then none
      else (upTo closing cs).map fun (inner, rest) => (c :: inner, rest)

/-- The text with each occurrence of a word replaced, if some characters belong to an occurrence
that has been replaced already. -/
def replaceWordFrom (w replacement : List Char) : (skip : Nat) → List Char → List Char
  | _, [] => []
  | skip + 1, _ :: cs => replaceWordFrom w replacement skip cs
  | 0, c :: cs =>
    if (expect w (c :: cs)).isSome then
      replacement ++ replaceWordFrom w replacement (w.length - 1) cs
    else
      c :: replaceWordFrom w replacement 0 cs

/-- The text with each occurrence of a word replaced. -/
def replaceWord (w replacement cs : List Char) : List Char := replaceWordFrom w replacement 0 cs

/-- The text with the first occurrence of a word replaced. -/
def replaceFirst (w replacement : List Char) : List Char → List Char
  | [] => []
  | c :: cs =>
    match expect w (c :: cs) with
    | some rest => replacement ++ rest
    | none => c :: replaceFirst w replacement cs

/-- The lines of a text. -/
def lines (cs : List Char) : List (List Char) := cs.splitOn '\n'

theorem lines_append_newline (cs rest : List Char) :
    lines (cs ++ '\n' :: rest) = lines cs ++ lines rest :=
  List.splitOn_append_cons_self cs rest

theorem lines_of_not_mem {cs : List Char} (h : '\n' ∉ cs) : lines cs = [cs] :=
  List.splitOn_eq_singleton h

end LoadScenario.Text
