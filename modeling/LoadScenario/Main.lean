import LoadScenario.Program

/-!
# The command line

The program on the real disk: the file operations of a conversion are those of the operating
system, and what the program prints goes to the terminal. Everything that is decided is decided in
the modules that this one imports.
-/

namespace LoadScenario

/-- The fault that an error of the operating system stands for. -/
def faultOf : IO.Error → Fault
  | .noFileOrDirectory _ _ _ => .notFound
  | .alreadyExists _ _ _ => .alreadyExists
  | .inappropriateType _ code _ => if code = 21 then .isDirectory else .notDirectory
  | .invalidArgument _ 36 _ => .nameTooLong
  | e => .other (toString e)

/-- Runs an operation that the operating system may refuse. -/
def attemptIO {α : Type} (operation : IO α) : IO (Except Fault α) := do
  try
    return .ok (← operation)
  catch e =>
    return .error (faultOf e)

/-- Whether a file can be opened in a mode. -/
def opens (path : String) (mode : IO.FS.Mode) : IO Bool := do
  return (← attemptIO (IO.FS.Handle.mk path mode)).isOk

instance : FileAccess IO where
  read p := do
    return (← attemptIO (IO.FS.readBinFile p.text)).map fun bytes => .ofBytes bytes.toList
  write p s := attemptIO (IO.FS.writeFile p.text s)
  makeDirectory p := attemptIO (IO.FS.createDir p.text)
  isDirectory p := opens (p.text ++ "/.") .read
  acceptsWrites p := opens p.text .readWrite

/-- The variables in a block of bytes in which each definition is ended by a zero. -/
def variablesOfBlock (bytes : List UInt8) : VariableFile.Variables :=
  let text := (String.fromUTF8? ⟨bytes.toArray⟩).getD ""
  (text.toList.splitOn '\x00').filterMap fun definition =>
    match cutAtEquals definition with
    | (name, some value) => some (name, value)
    | (_, none) => none

/-- The variables of the process. -/
def processVariables : IO VariableFile.Variables := do
  match ← attemptIO (IO.FS.readBinFile "/proc/self/environ") with
  | .ok bytes => return variablesOfBlock bytes.toList
  | .error _ => return []

/-- The number of directories above the current one. -/
def currentDepth : IO Nat := do
  return ((toString (← IO.currentDir)).toList.splitOn '/').length

end LoadScenario

open LoadScenario in
/-- Runs the program, prints what it has to say and ends with its status. -/
def main (words : List String) : IO UInt32 := do
  let stdout ← IO.getStdout
  let stderr ← IO.getStderr
  let ending ← runProgram (← processVariables) (← currentDepth) (← stdout.isTty) .plain words
  stdout.putStr ending.stdout
  stderr.putStr ending.stderr
  return UInt32.ofNat ending.status
