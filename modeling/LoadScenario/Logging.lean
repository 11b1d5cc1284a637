/-!
# Log settings

How the program logs is set by two process variables: the format of the lines, and whether a line
names the thread it comes from. A value that is not understood counts as the default.
-/

namespace LoadScenario

/-- The format of log lines. -/
inductive LogFormat where
  | text
  | json
  deriving DecidableEq

/-- How the program logs. -/
structure LogSettings where
  format : LogFormat
  threadIds : Bool
  /-- What is logged if the user does not say. -/
  defaultFilter : String
  deriving DecidableEq

namespace LogSettings

/-- A truth value as it is written in a process variable. -/
def truthValue? (value : String) : Option Bool :=
  if value = "true" then some true else if value = "false" then some false else none

/-- The settings that the process variables give. -/
def ofVariables (lookup : String → Option String) : LogSettings where
  format := if lookup "P2G_LOG_FORMAT" = some "json" then .json else .text
  threadIds := ((lookup "P2G_LOG_THREAD_IDS").bind truthValue?).getD false
  defaultFilter := "postman2gatling=info"

end LogSettings

end LoadScenario
