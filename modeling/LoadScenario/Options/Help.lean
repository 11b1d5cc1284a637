import LoadScenario.Options.Basic

/-!
# Help

The texts that the program shows when it is asked for help or when it does not understand what it
is asked.
-/

namespace LoadScenario

/-- The name of the program. -/
def programName : String := "postman2gatling"

/-- The version of the program. -/
def programVersion : String := "0.1.0"

/-- What the program is for. -/
def programDescription : String := "Convert Postman collections into Gatling simulations"

/-- A text filled up with blanks to a width. -/
def padded (width : Nat) (s : String) : String :=
  s ++ String.ofList (List.replicate (width - s.length) ' ')

/-- Two columns, the left one as wide as its widest text. -/
def columns (rows : List (String × String)) : List String :=
  let width := (rows.map fun r => r.1.length).foldl max 0
  rows.map fun (left, right) => "  " ++ padded width left ++ "  " ++ right

/-- The row of a setting, given the process variables. -/
def settingRow (lookup : String → Option String) (s : Setting) : String × String :=
  let value := match s.variableName? with
    | some name => " [env: " ++ name ++ "=" ++ (lookup name).getD "" ++ "]"
    | none => ""
  let default := if s = .home then " [default: " ++ defaultHome ++ "]" else ""
  ("-" ++ s.short.toString ++ ", --" ++ s.long ++ " <" ++ s.long.toUpper ++ ">",
    s.description ++ value ++ default)

/-- The help about a command. -/
def commandHelp (lookup : String → Option String) (v : Verb) : List String :=
  [v.description, "",
    "Usage: " ++ programName ++ " " ++ v.name ++ " [OPTIONS] --collection <COLLECTION>", "",
    "Options:"] ++
  columns (v.settings.map (settingRow lookup) ++ [("-h, --help", "Print help")])

/-- The help about the program. -/
def programHelp : List String :=
  [programDescription, "", "Usage: " ++ programName ++ " <COMMAND>", "", "Commands:"] ++
  columns (Verb.all.map (fun v => (v.name, v.description)) ++
    [("help", "Print this message or the help of the given subcommand(s)")]) ++
  ["", "Options:"] ++
  columns [("-h, --help", "Print help"), ("-V, --version", "Print version")]

/-- The help that the user asks for. -/
def helpLines (lookup : String → Option String) : Option Verb → List String
  | none => programHelp
  | some v => commandHelp lookup v

namespace UsageError

/-- Whether the user has asked for what is shown. -/
def isAnswer : UsageError → Bool
  | help _ | version => true
  | _ => false

/-- What is shown to the user. -/
def lines (lookup : String → Option String) : UsageError → List String
  | help about => helpLines lookup about
  | version => [programName ++ " " ++ programVersion]
  | noCommand => programHelp
  | unknownCommand => ["error: unrecognized subcommand"]
  | unknownArgument => ["error: unexpected argument"]
  | missingOption => ["error: the option --collection <COLLECTION> was not provided"]
  | repeatedOption => ["error: an option cannot be used multiple times"]
  | missingValue => ["error: an option needs a value"]
  | needlessValue => ["error: an option takes no value"]

end UsageError

end LoadScenario
