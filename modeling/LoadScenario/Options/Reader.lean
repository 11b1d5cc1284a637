import LoadScenario.Options.Basic
import LoadScenario.Text.Search

/-!
# Reading options

The words behind the program name are read from left to right. The value of an option is the next
word, or it is attached: behind an equals sign, or right behind the letter. A word that could be an
option is never taken for a value. Behind two hyphens that stand alone there are no options any
more, and since no command takes anything else, nothing may stand there.

The reading of an option is finished only when the next option begins or the words are used up, so
a word that is no option is reported before a value that is missing or not allowed. Values from
process variables come in after all words have been read.
-/

namespace LoadScenario

open Text

/-- The settings read so far, and an option that is being read with its value if it has come. -/
structure Reading where
  given : List (Setting × String)
  open? : Option (Setting × Option String)

namespace Reading

/-- Nothing read. -/
def start : Reading := ⟨[], none⟩

/-- Whether a setting has been given. -/
def has (r : Reading) (s : Setting) : Bool := (r.given.lookup s).isSome

/-- Takes a value for a setting that has none. -/
def take (r : Reading) (s : Setting) (value : String) : Except UsageError Reading :=
  if value.isEmpty && !s.mayBeEmpty then .error .missingValue
  else .ok { r with given := r.given ++ [(s, value)] }

/-- Takes a value that the user gives for a setting. -/
def takeOnce (r : Reading) (s : Setting) (value : String) : Except UsageError Reading :=
  if r.has s then .error .repeatedOption else r.take s value

/-- Finishes the option that is being read. -/
def finish (r : Reading) : Except UsageError Reading :=
  match r.open? with
  | none => .ok r
  | some (_, none) => .error .missingValue
  | some (s, some value) => { r with open? := none }.takeOnce s value

/-- Begins an option, whose value may be attached. -/
def begin (r : Reading) (s : Setting) : Option String → Except UsageError Reading
  | some value => do (← r.finish).takeOnce s value
  | none => do return { ← r.finish with open? := some (s, none) }

/-- Finishes the option that is being read, and then gives help. -/
def askHelp (r : Reading) (about : Option Verb) : Except UsageError Reading := do
  let _ ← r.finish
  throw (.help about)

end Reading

/-- Cuts a word at its first equals sign. -/
def cutAtEquals (cs : List Char) : String × Option String :=
  let name := String.ofList (cs.takeWhile (· ≠ '='))
  match cs.dropWhile (· ≠ '=') with
  | [] => (name, none)
  | _ :: value => (name, some (String.ofList value))

/-- The value that is attached to a letter: the rest of the word, without an equals sign in
front. -/
def attached? (cs : List Char) : Option String :=
  if cs.isEmpty then none else some (String.ofList ((expect ['='] cs).getD cs))

/-- Reads an option by its long name. -/
def readLong (verb : Verb) (r : Reading) (cs : List Char) : Except UsageError Reading :=
  let (name, value) := cutAtEquals cs
  match verb.settings.find? fun s => s.long = name with
  | some s => r.begin s value
  | none =>
    if name = "help" then
      match value with
      | none => r.askHelp (some verb)
      | some _ => .error .needlessValue
    else
      .error .unknownArgument

/-- Reads an option by its letter. -/
def readShort (verb : Verb) (r : Reading) (letter : Char) (rest : List Char) :
    Except UsageError Reading :=
  match verb.settings.find? fun s => s.short = letter with
  | some s => r.begin s (attached? rest)
  | none => if letter = 'h' then r.askHelp (some verb) else .error .unknownArgument

/-- Reads one word. -/
def readWord (verb : Verb) (r : Reading) (word : String) : Except UsageError Reading :=
  match word.toList with
  | '-' :: '-' :: cs => readLong verb r cs
  | '-' :: letter :: rest => readShort verb r letter rest
  | _ =>
    match r.open? with
    | some (s, none) => .ok { r with open? := some (s, some word) }
    | _ => .error .unknownArgument

/-- Reads the words behind the name of a command. -/
def readWords (verb : Verb) (r : Reading) : List String → Except UsageError Reading
  | [] => r.finish
  | word :: rest =>
    if word = "--" then
      if rest.isEmpty then r.finish else .error .unknownArgument
    else do
      readWords verb (← readWord verb r word) rest

/-- Adds the values that process variables give to settings that are left out. -/
def addVariables (lookup : String → Option String) (r : Reading) :
    List Setting → Except UsageError Reading
  | [] => .ok r
  | s :: rest =>
    match (if r.has s then none else s.variableName?.bind lookup) with
    | none => addVariables lookup r rest
    | some value => do addVariables lookup (← r.take s value) rest

/-- The settings that the words behind the name of a command and the process variables give. -/
def readSettings (lookup : String → Option String) (verb : Verb) (words : List String) :
    Except UsageError Reading := do
  addVariables lookup (← readWords verb .start words) verb.settings

/-- What a command with given settings asks for. -/
def invocationOf (verb : Verb) (r : Reading) : Except UsageError Invocation :=
  let value (s : Setting) : Option String := r.given.lookup s
  let path (s : Setting) : Option Path := (value s).map Path.mk
  match path .collection with
  | none => .error .missingOption
  | some collection =>
    match verb with
    | .list => .ok (.list collection (path .environment))
    | .convert => .ok (.convert collection (path .environment) (value .output)
        ((path .home).getD ⟨defaultHome⟩) (path .bodies) (path .data) (path .simulations)
        (path .template))

/-- The command of a name. -/
def verbOf? (name : String) : Option Verb := Verb.all.find? fun v => v.name = name

/-- The name of the command that gives help. -/
def helpName : String := "help"

/-- What asking for help about some words comes to. -/
def readHelp : List String → UsageError
  | [] => .help none
  | [name] =>
    if name = helpName then .help none
    else
      match verbOf? name with
      | some verb => .help (some verb)
      | none => .unknownCommand
  | _ => .unknownCommand

/-- What a first word that is no command comes to, given that no option has a value there. -/
def readLeadingWord (word : String) : UsageError :=
  match word.toList with
  | '-' :: '-' :: cs =>
    match cutAtEquals cs with
    | ("help", none) => .help none
    | ("version", none) => .version
    | ("help", some _) | ("version", some _) => .needlessValue
    | _ => .unknownArgument
  | '-' :: 'h' :: _ => .help none
  | '-' :: 'V' :: _ => .version
  | '-' :: _ :: _ => .unknownArgument
  | _ => .unknownCommand

/-- What the first word comes to behind two hyphens that stand alone. -/
def readSeparated : List String → UsageError
  | [] => .noCommand
  | word :: _ =>
    if word = helpName ∨ (verbOf? word).isSome then .unknownArgument else .unknownCommand

/-- Reads the words behind the name of the program, given the process variables. -/
def readInvocation (lookup : String → Option String) : List String → Except UsageError Invocation
  | [] => .error .noCommand
  | word :: rest =>
    match verbOf? word with
    | some verb => do invocationOf verb (← readSettings lookup verb rest)
    | none =>
      if word = helpName then .error (readHelp rest)
      else if word = "--" then .error (readSeparated rest)
      else .error (readLeadingWord word)

end LoadScenario
