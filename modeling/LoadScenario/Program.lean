import LoadScenario.Command.Conversion
import LoadScenario.Options.Help
import LoadScenario.Options.Reader
import LoadScenario.Options.VariableFile

/-!
# The program

From the words of the command line and the process variables to what is printed and how the program
ends. A command that fails ends the program with status 1 and a report of what was being done and
why it failed. Words that ask for nothing that can be run end it with status 2. A variable file
that cannot be used ends it with status 101 before the words are looked at.
-/

namespace LoadScenario

/-- How a run of the program ends. -/
structure Ending where
  status : Nat
  stdout : String
  stderr : String

/-- A text with every line behind the first moved to the right. -/
def moveRight (s : String) : String :=
  String.ofList (s.toList.flatMap fun c => if c = '\n' then "\n    ".toList else [c])

/-- The report of a failure. -/
def failureReport (doing : String) (failure : Failure) : String :=
  "Error: " ++ doing ++ "\n\nCaused by:\n    " ++ moveRight failure.message ++ "\n"

/-- How a run ends after a command. -/
def Outcome.ending (o : Outcome) (doing : String) : Ending :=
  match o.result with
  | .ok () => ⟨0, o.stdout, ""⟩
  | .error failure => ⟨1, o.stdout, failureReport doing failure⟩

/-- How a run ends when no command can be run. -/
def UsageError.ending (e : UsageError) (lookup : String → Option String) : Ending :=
  if e.isAnswer then ⟨0, printed (e.lines lookup), ""⟩ else ⟨2, "", printed (e.lines lookup)⟩

/-- How a run ends when the variable file cannot be used. -/
def VariableFile.UnusableValue.ending (u : VariableFile.UnusableValue) : Ending :=
  ⟨101, "", u.message ++ "\n"⟩

/-- The places where a variable file is looked for: the current directory and those above it. -/
def variableFiles (depth : Nat) : List Path :=
  (List.range (depth + 1)).map fun n => ⟨String.join (List.replicate n "../") ++ ".env"⟩

variable {m : Type → Type} [Monad m] [FileAccess m]

/-- What the first file of a list holds that can be read. -/
def firstReadable : List Path → m (Option Content)
  | [] => return none
  | p :: rest => do
    match ← FileAccess.read p with
    | .ok content => return some content
    | .error _ => firstReadable rest

/-- The process variables with those of the variable file. -/
def allVariables (process : VariableFile.Variables) (depth : Nat) :
    m (Except VariableFile.UnusableValue VariableFile.Variables) := do
  match ← firstReadable (variableFiles depth) with
  | some content => return VariableFile.extend process content
  | none => return .ok process

/-- Does what the user asks for. -/
def Invocation.run (color : Bool) (schedule : Schedule) : Invocation → m Ending
  | .list collection environment => do
    return (← Listing.run color collection environment).ending
      ("Listing of " ++ collection.text ++ " failed")
  | .convert collection environment output home bodies data simulations template => do
    let c : Conversion :=
      { collection, environment, output, template,
        layout := Layout.resolve home bodies data simulations }
    return (← c.run color schedule).ending ("Conversion of " ++ collection.text ++ " failed")

/-- Runs the program on the words behind its name. -/
def runProgram (process : VariableFile.Variables) (depth : Nat) (isTerminal : Bool)
    (schedule : Schedule) (words : List String) : m Ending := do
  match ← allVariables process depth with
  | .error unusable => return unusable.ending
  | .ok known =>
    let lookup (name : String) : Option String := known.lookup name
    match readInvocation lookup words with
    | .error e => return e.ending lookup
    | .ok invocation => invocation.run (usesColor lookup isTerminal) schedule

end LoadScenario
