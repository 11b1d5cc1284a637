/-!
# Paths

A path is a text whose parts are separated by slashes. Joining never looks at what is there and
changes nothing but the seam: doubled slashes, dots and parent steps stay as they are written, so
that a path is shown to the user as the user gave it. An absolute path on the right replaces the
path on the left.
-/

namespace LoadScenario

/-- A path as it is written. -/
structure Path where
  text : String
  deriving DecidableEq, Inhabited

namespace Path

/-- Whether a text is a path from the root. -/
def isRooted (s : String) : Bool := s.toList.head? = some '/'

/-- Whether a path has no part at all. -/
def isEmpty (p : Path) : Bool := p.text.isEmpty

/-- The path of something inside a directory. -/
def join (p : Path) (inner : String) : Path :=
  if isRooted inner then
    ⟨inner⟩
  else if p.isEmpty || p.text.toList.getLast? = some '/' then
    ⟨p.text ++ inner⟩
  else
    ⟨p.text ++ "/" ++ inner⟩

/-- What stands between the slashes, the empty parts included. -/
def parts (p : Path) : List String := (p.text.toList.splitOn '/').map String.ofList

theorem parts_eq_append {p : Path} {front behind : List Char}
    (h : p.text.toList = front ++ '/' :: behind) :
    p.parts = (front.splitOn '/').map String.ofList ++ (behind.splitOn '/').map String.ofList := by
  rw [parts, h, List.splitOn_append_cons_self, List.map_append]

/-- Whether a part that is not the first leads nowhere. -/
def isIdle (part : List Char) : Bool := part = [] || part = ['.']

/-- Parts without the idle ones at their end. -/
def trimParts (parts : List (List Char)) : List (List Char) :=
  (parts.reverse.dropWhile isIdle).reverse

/-- The directory that a path lies in: the path without its last part that is not idle. The root
and the empty path lie nowhere. -/
def parent? (p : Path) : Option Path :=
  match p.text.toList.splitOn '/' with
  | [] => none
  | first :: rest =>
    match trimParts rest with
    | [] => if first = [] then none else some ⟨""⟩
    | rest =>
      match trimParts rest.dropLast with
      | [] => some ⟨String.ofList (if first = [] then ['/'] else first)⟩
      | rest => some ⟨String.ofList (['/'].intercalate (first :: rest))⟩

/-- A path and the directories that it lies in, innermost first, as many as the first argument
allows. -/
def ancestorsUpTo : Nat → Path → List Path
  | 0, _ => []
  | bound + 1, p =>
    p :: match p.parent? with
      | some dir => ancestorsUpTo bound dir
      | none => []

/-- A path and the directories that it lies in, innermost first. -/
def ancestors (p : Path) : List Path := ancestorsUpTo (p.text.length + 1) p

end Path

end LoadScenario
