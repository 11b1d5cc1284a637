import LoadScenario.Files.Access

/-!
# A file system as a value

Directories and files by the names that lead to them from the root. A path is followed part by
part: an empty part and a dot stay where they are, two dots go one directory up, and every other
part names something in the directory reached so far, which therefore must be a directory. The
last name may be missing, because a file or directory of that name may be about to be made.

There are no links here, and whoever uses the file system may read and write everything.
-/

namespace LoadScenario

/-- The names that lead from the root to a file or directory. -/
abbrev Location := List String

/-- What stands at a location. -/
inductive Node where
  | file (content : Content)
  | directory
  deriving DecidableEq

/-- A file system, with the directory in which relative paths start. -/
structure FileSystem where
  here : Location
  nodes : List (Location × Node)
  deriving DecidableEq

namespace FileSystem

/-- The longest name of a file or directory in bytes. -/
def maxName : Nat := 255

/-- The longest path in bytes. -/
def maxPath : Nat := 4095

/-- What stands at a location. The directories that lead to the current one are always there. -/
def node? (fs : FileSystem) (l : Location) : Option Node :=
  if l <+: fs.here then some .directory else fs.nodes.lookup l

/-- Puts something at a location. -/
def put (fs : FileSystem) (l : Location) (n : Node) : FileSystem :=
  { fs with nodes := (l, n) :: fs.nodes.filter fun (l', _) => l' ≠ l }

theorem lookup_put (fs : FileSystem) (l l' : Location) (n : Node) :
    (fs.put l n).nodes.lookup l' = if l' = l then some n else fs.nodes.lookup l' := by
  by_cases e : l' = l
  · simp [put, e]
  · simp only [put, List.lookup_cons, beq_false_of_ne e, e, if_false]
    induction fs.nodes with
    | nil => rfl
    | cons x rest ih =>
      obtain ⟨k, v⟩ := x
      by_cases hk : k = l
      · rw [List.filter_cons_of_neg (by simp [hk]), ih, List.lookup_cons, hk, beq_false_of_ne e]
      · rw [List.filter_cons_of_pos (by simp [hk]), List.lookup_cons, List.lookup_cons, ih]

/-- What is put at a location is there, unless the way to the current directory is, and everything
else stays. -/
theorem node?_put (fs : FileSystem) (l l' : Location) (n : Node) :
    (fs.put l n).node? l' =
      if l' = l ∧ ¬ l <+: fs.here then some n else fs.node? l' := by
  simp only [node?, lookup_put]
  by_cases e : l' = l
  · subst e
    by_cases h : l' <+: fs.here <;> simp [put, h]
  · simp [put, e]

/-- Follows the parts of a path from a location. -/
def follow (fs : FileSystem) (l : Location) : List String → Except Fault Location
  | [] => .ok l
  | part :: rest =>
    match fs.node? l with
    | none => .error .notFound
    | some (.file _) => .error .notDirectory
    | some .directory =>
      if part = "" ∨ part = "." then follow fs l rest
      else if part = ".." then follow fs l.dropLast rest
      else if maxName < part.utf8ByteSize then .error .nameTooLong
      else follow fs (l ++ [part]) rest

/-- The location that a path leads to. -/
def locate (fs : FileSystem) (p : Path) : Except Fault Location :=
  if p.isEmpty then .error .notFound
  else if p.text.toList.contains '\x00' then .error .nulInPath
  else if maxPath < p.text.utf8ByteSize then .error .nameTooLong
  else follow fs (if Path.isRooted p.text then [] else fs.here) p.parts

/-- What the file at a path holds. -/
def read (fs : FileSystem) (p : Path) : Except Fault Content := do
  match fs.node? (← fs.locate p) with
  | none => .error .notFound
  | some .directory => .error .isDirectory
  | some (.file content) => .ok content

/-- The file system after the file at a path has been made to hold something. -/
def write (fs : FileSystem) (p : Path) (content : Content) : Except Fault FileSystem := do
  let l ← fs.locate p
  match fs.node? l with
  | some .directory => .error .isDirectory
  | _ => .ok (fs.put l (.file content))

/-- The file system after a directory has been made. -/
def makeDirectory (fs : FileSystem) (p : Path) : Except Fault FileSystem := do
  let l ← fs.locate p
  match fs.node? l with
  | some _ => .error .alreadyExists
  | none => .ok (fs.put l .directory)

/-- Whether there is a directory at a path. -/
def isDirectory (fs : FileSystem) (p : Path) : Bool :=
  match fs.locate p with
  | .ok l => fs.node? l = some .directory
  | .error _ => false

/-- Whether there is a file at a path. -/
def acceptsWrites (fs : FileSystem) (p : Path) : Bool :=
  match fs.read p with
  | .ok _ => true
  | .error _ => false

/-- Runs a change of the file system that may fail; a failure leaves it as it is. -/
def attempt (change : FileSystem → Except Fault FileSystem) :
    StateM FileSystem (Except Fault Unit) := fun fs =>
  match change fs with
  | .ok fs' => (.ok (), fs')
  | .error fault => (.error fault, fs)

instance : FileAccess (StateM FileSystem) where
  read p := fun fs => (fs.read p, fs)
  write p s := attempt fun fs => fs.write p (.text s)
  makeDirectory p := attempt fun fs => fs.makeDirectory p
  isDirectory p := fun fs => (fs.isDirectory p, fs)
  acceptsWrites p := fun fs => (fs.acceptsWrites p, fs)

/-- The file system in which there is nothing but the way to the current directory. -/
def empty (here : Location) : FileSystem := ⟨here, []⟩

/-! ## Listing -/

/-- Whether nothing stands in the directory at a location. -/
def isVacant (fs : FileSystem) (l : Location) : Bool :=
  !fs.nodes.any fun (l', _) => l'.dropLast = l && l' ≠ []

/-- The path from the current directory to a location below it. -/
def below? (fs : FileSystem) (l : Location) : Option String :=
  match l.drop fs.here.length with
  | [] => none
  | names => if fs.here <+: l then some ("/".intercalate names) else none

/-- How a location below the current directory is listed: a file with what it holds, and a
directory only if it is empty. -/
def listed? (fs : FileSystem) : Location × Node → Option (String × Option Content)
  | (l, .file content) => (fs.below? l).map fun p => (p, some content)
  | (l, .directory) => if fs.isVacant l then (fs.below? l).map fun p => (p ++ "/", none) else none

/-- The files and empty directories below the current directory, in the order of their paths. -/
def listing (fs : FileSystem) : List (String × Option Content) :=
  (fs.nodes.filterMap fs.listed?).mergeSort fun a b => a.1 ≤ b.1

end FileSystem

end LoadScenario
