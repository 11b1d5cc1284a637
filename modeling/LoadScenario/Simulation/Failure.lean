import LoadScenario.Files.Access

/-!
# Failures

A conversion can be refused for a handful of causes. Each has its own words, which start with what
could not be done and go on with what stood in the way.
-/

namespace LoadScenario

/-- How far a simulation has come. -/
inductive State where
  | empty
  | loaded
  | feederBuilt
  | requestsBuilt
  | generated
  deriving DecidableEq

/-- The name of a state. -/
def State.name : State → String
  | empty => "empty"
  | loaded => "loaded"
  | feederBuilt => "feeder built"
  | requestsBuilt => "requests built"
  | generated => "generated"

/-- Something that can be done with a simulation. -/
inductive Action where
  | readEnvironment
  | readCollection
  | deriveFeeder
  | deriveRequests
  | write
  deriving DecidableEq

/-- How an action is named when it is refused. -/
def Action.name : Action → String
  | readEnvironment => "load the environment"
  | readCollection => "load the collection"
  | deriveFeeder => "build the feeder"
  | deriveRequests => "build the requests"
  | write => "generate"

/-- Why a conversion was refused. -/
inductive Failure where
  | collectionUnreadable (path : Path) (fault : Fault)
  | collectionMalformed
  | environmentUnreadable (path : Path) (fault : Fault)
  | environmentMalformed
  | templateUnreadable (path : Path) (fault : Fault)
  /-- A folder or the collection lists an id that no request has. -/
  | requestNotFound (id container : String)
  /-- Variables refer to each other in a cycle. -/
  | cyclicVariables (names : List String)
  /-- The simulation is not in the state in which the action is possible. -/
  | wrongState (action : Action) (state : State)
  | directoryNotMade (path : Path) (fault : Fault)
  | fileNotWritten (path : Path) (fault : Fault)
  deriving DecidableEq

/-- An operation on a path that failed. -/
def faultAt (attempt : String) (path : Path) (fault : Fault) : String :=
  "Failed to " ++ attempt ++ " " ++ path.text ++ ": " ++ fault.message

/-- The words for a failure. -/
def Failure.message : Failure → String
  | collectionUnreadable path fault =>
    "Failed to load Postman collection: " ++ faultAt "read file" path fault
  | collectionMalformed =>
    "Failed to load Postman collection: Failed to parse collection JSON: malformed document"
  | environmentUnreadable path fault =>
    "Failed to load Postman environment: " ++ faultAt "read file" path fault
  | environmentMalformed =>
    "Failed to load Postman environment: Failed to parse environment JSON: malformed document"
  | templateUnreadable path fault =>
    "Failed to load simulation template: " ++ faultAt "read file" path fault
  | requestNotFound id container =>
    "Request not found: '" ++ id ++ "' referenced by '" ++ container ++ "'"
  | cyclicVariables names =>
    "Cyclic environment variables: " ++ ", ".intercalate names
  | wrongState action state =>
    "Invalid simulation state: cannot " ++ action.name ++ " while the simulation is " ++ state.name
  | directoryNotMade path fault =>
    "Failed to write output: " ++ faultAt "create directory" path fault
  | fileNotWritten path fault =>
    "Failed to write output: " ++ faultAt "write file" path fault

end LoadScenario
