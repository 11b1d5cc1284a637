import LoadScenario.Path

/-!
# Access to files

A conversion touches files in five ways only, and these are the operations of the class here. The
rest of the program is written against the class, so it runs on the disk as well as on a file
system that is a plain value, and what it does to files can be reasoned about on the value.

An operation can go wrong, and the user is told in the words of the operating system, with its
numbers.
-/

namespace LoadScenario

/-- Why a file operation failed. -/
inductive Fault where
  | notFound
  | alreadyExists
  | notDirectory
  | isDirectory
  | nameTooLong
  /-- The bytes of a file are no UTF-8. -/
  | notText
  /-- A path holds the character that ends a path for the operating system. -/
  | nulInPath
  /-- No part of a path could be made. -/
  | noWholeTree
  | other (message : String)
  deriving DecidableEq

/-- The words for a fault. -/
def Fault.message : Fault → String
  | notFound => "No such file or directory (os error 2)"
  | alreadyExists => "File exists (os error 17)"
  | notDirectory => "Not a directory (os error 20)"
  | isDirectory => "Is a directory (os error 21)"
  | nameTooLong => "File name too long (os error 36)"
  | notText => "stream did not contain valid UTF-8"
  | nulInPath => "file name contained an unexpected NUL byte"
  | noWholeTree => "failed to create whole tree"
  | other message => message

/-- What a file holds: a text, or bytes that are no text. -/
inductive Content where
  | text (s : String)
  | binary (bytes : List UInt8)
  deriving DecidableEq

namespace Content

/-- The text of a file. -/
def text? : Content → Except Fault String
  | text s => .ok s
  | binary _ => .error .notText

/-- What a file with given bytes holds. -/
def ofBytes (bytes : List UInt8) : Content :=
  match String.fromUTF8? ⟨bytes.toArray⟩ with
  | some s => text s
  | none => binary bytes

end Content

/-- The file operations of a conversion. -/
class FileAccess (m : Type → Type) where
  /-- What the file at a path holds. -/
  read : Path → m (Except Fault Content)
  /-- Makes the file at a path hold a text; the file is made if it is missing. -/
  write : Path → String → m (Except Fault Unit)
  /-- Makes a directory in a directory that is there. -/
  makeDirectory : Path → m (Except Fault Unit)
  /-- Whether there is a directory at a path. -/
  isDirectory : Path → m Bool
  /-- Whether there is a file at a path that can be opened for writing. -/
  acceptsWrites : Path → m Bool

section

variable {m : Type → Type} [Monad m] [FileAccess m]

/-- Reads a text file. -/
def readText (p : Path) : m (Except Fault String) := do
  return (← FileAccess.read p).bind Content.text?

/-- Makes a directory, and takes a directory that is there already for a success. -/
def ensureDirectory (p : Path) : m (Except Fault Unit) := do
  match ← FileAccess.makeDirectory p with
  | .ok () => return .ok ()
  | .error fault => return if ← FileAccess.isDirectory p then .ok () else .error fault

/-- Makes the first of a list of directories, of which each lies in the next. Those further down
the list are made only if they turn out to be missing. -/
def makeFirst : List Path → m (Except Fault Unit)
  | [] => return .error .noWholeTree
  | p :: outer => do
    if p.isEmpty then
      return .ok ()
    match ← ensureDirectory p with
    | .error .notFound =>
      match ← makeFirst outer with
      | .ok () => ensureDirectory p
      | .error fault => return .error fault
    | answer => return answer

/-- Makes a directory and the directories that it lies in. -/
def makeDirectories (p : Path) : m (Except Fault Unit) := makeFirst p.ancestors

end

end LoadScenario
