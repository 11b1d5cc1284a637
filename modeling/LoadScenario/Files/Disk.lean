import LoadScenario.Files.Tree

/-!
# Files that can be full

A file system as a value has room for everything. On a disk a write can break off: the file is
opened and emptied, as much is written as there is room for, and then the write fails. What has been
written by then stays. The file can be opened as before, so nobody can tell from that.

How much a file can hold is given for single locations. A device that is always full is a file that
can hold nothing.
-/

namespace LoadScenario

/-- A file system in which some files can hold so many bytes and no more. -/
structure Disk where
  files : FileSystem
  room : List (Location × Nat)
  deriving DecidableEq

namespace Disk

/-- A write that there is no room for. -/
def full : Fault := .other "No space left on device (os error 28)"

/-- How many bytes the file at a path can hold. -/
def limit? (d : Disk) (p : Path) : Option Nat :=
  match d.files.locate p with
  | .ok l => d.room.lookup l
  | .error _ => none

/-- Whether there is room for a text in the file at a path. -/
def hasRoom (d : Disk) (p : Path) (s : String) : Bool :=
  match d.limit? p with
  | some n => s.utf8ByteSize ≤ n
  | none => true

/-- What is left of a text in the file at a path. -/
def stored (d : Disk) (p : Path) (s : String) : Content :=
  if d.hasRoom p s then .text s else .ofBytes (s.toUTF8.toList.take ((d.limit? p).getD 0))

/-- Writes as much of a text as there is room for, and fails if that is not all. -/
def write (p : Path) (s : String) : StateM Disk (Except Fault Unit) := fun d =>
  match d.files.write p (d.stored p s) with
  | .ok files => (if d.hasRoom p s then .ok () else .error full, { d with files })
  | .error fault => (.error fault, d)

/-- Makes a directory. There is always room for one. -/
def makeDirectory (p : Path) : StateM Disk (Except Fault Unit) := fun d =>
  match d.files.makeDirectory p with
  | .ok files => (.ok (), { d with files })
  | .error fault => (.error fault, d)

instance : FileAccess (StateM Disk) where
  read p := fun d => (d.files.read p, d)
  write := write
  makeDirectory := makeDirectory
  isDirectory p := fun d => (d.files.isDirectory p, d)
  acceptsWrites p := fun d => (d.files.acceptsWrites p, d)

end Disk

end LoadScenario
