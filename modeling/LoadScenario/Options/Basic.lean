import LoadScenario.Path

/-!
# Options

The program has two commands, and each takes settings by options: a long name behind two hyphens,
or a letter behind one. Most settings are paths, and a path must not be empty. Some settings have a
process variable that gives their value when the option is left out.
-/

namespace LoadScenario

/-- What can be set by an option. -/
inductive Setting where
  | collection
  | environment
  | output
  | home
  | bodies
  | data
  | simulations
  | template
  deriving DecidableEq

namespace Setting

/-- The long name of the option. -/
def long : Setting → String
  | collection => "collection"
  | environment => "environment"
  | output => "output"
  | home => "home"
  | bodies => "bodies"
  | data => "data"
  | simulations => "simulations"
  | template => "template"

/-- The letter of the option. -/
def short : Setting → Char
  | collection => 'c'
  | environment => 'e'
  | output => 'o'
  | home => 'H'
  | bodies => 'b'
  | data => 'd'
  | simulations => 's'
  | template => 't'

/-- The process variable that gives the value when the option is left out. -/
def variableName? : Setting → Option String
  | home => some "GATLING_HOME"
  | bodies => some "GATLING_BODIES"
  | data => some "GATLING_DATA"
  | simulations => some "GATLING_SIMULATIONS"
  | template => some "GATLING_TEMPLATE"
  | _ => none

/-- Whether an empty value is a value. -/
def mayBeEmpty : Setting → Bool
  | output => true
  | _ => false

/-- What the option is for. -/
def description : Setting → String
  | collection => "Export of a Postman collection in JSON format"
  | environment => "Export of a Postman environment in JSON format"
  | output => "Simulation name (defaults to the collection name)"
  | home => "Gatling home directory, base of the bodies, data and simulations paths"
  | bodies => "Directory where request bodies are written"
  | data => "Directory where the feeder file is written"
  | simulations => "Directory where the scenario is written"
  | template => "Scala template of the scenario (built-in template if not specified)"

end Setting

/-- The commands. -/
inductive Verb where
  | convert
  | list
  deriving DecidableEq

namespace Verb

/-- The name of the command. -/
def name : Verb → String
  | convert => "convert"
  | list => "list"

/-- All commands. -/
def all : List Verb := [convert, list]

/-- The settings that the command takes. -/
def settings : Verb → List Setting
  | convert =>
    [.collection, .environment, .output, .home, .bodies, .data, .simulations, .template]
  | list => [.collection, .environment]

/-- What the command is for. -/
def description : Verb → String
  | convert => "Generate a Gatling simulation from a Postman collection"
  | list => "List the requests of a collection as they would be generated"

end Verb

/-- The home that is used if none is given. -/
def defaultHome : String := "./gatling"

/-- What the user asks for. -/
inductive Invocation where
  | convert (collection : Path) (environment : Option Path) (output : Option String) (home : Path)
      (bodies data simulations template : Option Path)
  | list (collection : Path) (environment : Option Path)
  deriving DecidableEq

/-- Why the words of the user ask for nothing that can be run. -/
inductive UsageError where
  /-- The user asks for help, about a command or in general. -/
  | help (about : Option Verb)
  | version
  | noCommand
  | unknownCommand
  | unknownArgument
  | missingOption
  | repeatedOption
  | missingValue
  | needlessValue
  deriving DecidableEq

end LoadScenario
