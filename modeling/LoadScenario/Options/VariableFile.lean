import LoadScenario.Text.Character
import LoadScenario.Text.Search
import LoadScenario.Files.Access

/-!
# Variable files

A file named `.env` in the current directory gives default values to process variables, one on a
line. A value may be quoted, and outside single quotes a dollar sign puts in the value of another
variable, one of the process or of the lines before. A line that makes no sense ends the reading
of the file, and the lines before it count.

A process variable cannot hold a NUL. A line that would put one into a variable is therefore no
line to pass over, it makes the file as a whole unusable.
-/

namespace LoadScenario.VariableFile

open Text

/-- Variables with their values. -/
abbrev Variables := List (String × String)

/-- Whether a character may start the name of a variable. -/
def startsName (c : Char) : Bool := c.isAlpha || c = '_'

/-- Whether a character may stand in the name of a variable. -/
def inName (c : Char) : Bool := c.isAlphanum || c = '_' || c = '.'

/-- What the reader of a value is in the middle of. -/
inductive Mode where
  | plain
  | singleQuoted
  | doubleQuoted
  /-- Behind a backslash. -/
  | escaped (inQuotes : Bool)
  /-- In a name behind a dollar sign, given in reverse. -/
  | reference (inQuotes : Bool) (name : List Char)
  /-- In a name between braces behind a dollar sign, given in reverse. -/
  | bracedReference (inQuotes : Bool) (name : List Char)
  /-- Behind the value. -/
  | ended
  deriving DecidableEq

/-- The mode outside or inside double quotes. -/
def textMode (inQuotes : Bool) : Mode := if inQuotes then .doubleQuoted else .plain

/-- What a character does where no quote, escape or reference is open, or only double quotes are.
The answer is the next mode and what is added to the value. -/
def textStep (inQuotes : Bool) (c : Char) : Mode × List Char :=
  if c = '$' then (.reference inQuotes [], [])
  else if c = '\\' then (.escaped inQuotes, [])
  else if c = '"' then (textMode (!inQuotes), [])
  else if inQuotes then (.doubleQuoted, [c])
  else if c = '\x27' then (.singleQuoted, [])
  else if c = ' ' ∨ c = '\t' then (.ended, [])
  else (.plain, [c])

/-- The character that an escape puts in. -/
def escape? (c : Char) : Option Char :=
  if c = 'n' then some '\n'
  else if "\\'\"$ ".toList.contains c then some c
  else none

/-- What a character does in a mode. The argument `value` gives the values of variables. -/
def step (value : String → String) : Mode → Char → Option (Mode × List Char)
  | .plain, c => some (textStep false c)
  | .doubleQuoted, c => some (textStep true c)
  | .singleQuoted, c => some (if c = '\x27' then (.plain, []) else (.singleQuoted, [c]))
  | .escaped inQuotes, c => (escape? c).map fun c => (textMode inQuotes, [c])
  | .reference inQuotes name, c =>
    if isAlphanumeric c then
      some (.reference inQuotes (c :: name), [])
    else if c = '\x7b' ∧ name = [] then
      some (.bracedReference inQuotes [], [])
    else
      let inserted := (value (String.ofList name.reverse)).toList
      if c = '$' then some (.reference inQuotes [], inserted)
      else some (textMode inQuotes, inserted ++ [c])
  | .bracedReference inQuotes name, c =>
    if c = '\x7d' then some (textMode inQuotes, (value (String.ofList name.reverse)).toList)
    else some (.bracedReference inQuotes (c :: name), [])
  | .ended, c => if c = ' ' ∨ c = '\t' then some (.ended, []) else none

/-- Reads the rest of a value in a mode. -/
def valueFrom (value : String → String) : Mode → List Char → Option (List Char)
  | .plain, [] | .ended, [] | .escaped false, [] => some []
  | .reference false name, [] => some (value (String.ofList name.reverse)).toList
  | _, [] => none
  | mode, c :: cs =>
    if mode = .ended ∧ c = '#' then
      some []
    else
      match step value mode c with
      | none => none
      | some (mode, added) => (valueFrom value mode cs).map (added ++ ·)

/-- Reads a name. -/
def name? (cs : List Char) : Option (String × List Char) :=
  if cs.head?.any startsName then
    some (String.ofList (cs.takeWhile inName), cs.dropWhile inName)
  else
    none

/-- Reads the name on a line and what follows its equals sign. The word `export` may stand in front
of the name, or be a name itself. -/
def nameAndRest? (cs : List Char) : Option (String × List Char) := do
  let (name, cs) ← name? cs
  match expect ['='] (skipBlank cs) with
  | some cs => return (name, cs)
  | none =>
    if name ≠ "export" then
      none
    let (name, cs) ← name? (skipBlank cs)
    let cs ← expect ['='] (skipBlank cs)
    return (name, cs)

/-- What a line gives. -/
inductive Line where
  | blank
  | variable (name value : String)
  | malformed

/-- Reads a line. -/
def readLine (value : String → String) (line : List Char) : Line :=
  let line := trim line
  if line = [] ∨ line.head? = some '#' then
    .blank
  else
    match nameAndRest? line with
    | none => .malformed
    | some (name, cs) =>
      let cs := skipBlank cs
      if cs = [] ∨ cs.head? = some '#' then
        .variable name ""
      else
        match valueFrom value .plain cs with
        | none => .malformed
        | some v => .variable name (String.ofList v)

/-- What follows a name and an equals sign in the definition of a variable. A name between braces
may itself hold an equals sign, and then it reaches into the value. -/
def valueBehind? (name : List Char) (definition : String × String) : Option String :=
  (expect (name ++ ['=']) (definition.1.toList ++ '=' :: definition.2.toList)).map String.ofList

/-- The value that a name stands for, which is empty if no variable is set by it. -/
def valueIn (known : Variables) (name : String) : String :=
  (known.findSome? (valueBehind? name.toList)).getD ""

/-- Why a variable file cannot be used: a variable would get a value that holds a NUL. -/
structure UnusableValue where
  variableName : String
  deriving DecidableEq

/-- The words for it. -/
def UnusableValue.message (u : UnusableValue) : String :=
  "failed to set environment variable `" ++ u.variableName ++ "`: nul byte found in its value"

/-- Sets a variable that is not set yet. -/
def define (known : Variables) (name value : String) : Except UnusableValue Variables :=
  if (known.lookup name).isSome then .ok known
  else if value.toList.contains '\x00' then .error ⟨name⟩
  else .ok (known ++ [(name, value)])

/-- Adds the variables of lines, up to the first line that makes no sense, to those that are set
already. A line may be no text at all. -/
def addLines (known : Variables) : List (Option (List Char)) → Except UnusableValue Variables
  | [] => .ok known
  | none :: _ => .ok known
  | some line :: rest =>
    match readLine (valueIn known) line with
    | .blank => addLines known rest
    | .malformed => .ok known
    | .variable name value => do addLines (← define known name value) rest

/-- The bytes between line feeds. -/
def byteLines (bytes : List UInt8) : List (List UInt8) :=
  bytes.foldr
    (fun b lines =>
      match lines with
      | [] => [[b]]
      | line :: rest => if b = 10 then [] :: line :: rest else (b :: line) :: rest)
    [[]]

/-- The lines of a file, each as text if it is one. -/
def contentLines : Content → List (Option (List Char))
  | .text s => (lines s.toList).map some
  | .binary bytes =>
    (byteLines bytes).map fun line => (String.fromUTF8? ⟨line.toArray⟩).map String.toList

/-- The variables of a process together with those that a file adds. A variable that is set already
stays as it is, so of several lines for one variable the first counts. -/
def extend (process : Variables) (file : Content) : Except UnusableValue Variables :=
  addLines process (contentLines file)

end LoadScenario.VariableFile
