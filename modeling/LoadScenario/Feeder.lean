import LoadScenario.Environment
import LoadScenario.OrderedMap
import LoadScenario.Placeholder

/-!
# Feeders

A feeder gives a scenario the values of its variables. The value of a variable may refer to other
variables, so the references are replaced until none is left that could be. They are replaced in
passes: each pass goes through the variables in order and replaces the references in each value by
the values of that moment. A reference to a name that is no variable stays as it is.

The number of passes is bounded by the number of variables and one more. If some variable still
refers to a variable after the last pass, the variables are taken to refer to each other in a
cycle, and the answer names them.
-/

namespace LoadScenario

open Text

/-- The values of the variables, with no reference to a variable left in them. -/
structure Feeder where
  values : OrderedMap
  deriving DecidableEq, Inhabited

namespace Feeder

/-- The value with each reference to a variable replaced by the value of that variable. -/
def substitute (values : OrderedMap) (value : String) : String :=
  String.ofList (reference.replaceNames
    (fun name =>
      match values.get? (String.ofList name) with
      | some referent => referent.toList
      | none => reference.around name)
    value.toList)

/-- Whether a value refers to a variable. -/
def refersTo (values : OrderedMap) (value : String) : Bool :=
  (references value).any values.contains

/-- Replaces the references in the value of one variable. -/
def resolveKey (values : OrderedMap) (key : String) : OrderedMap :=
  match values.get? key with
  | some value => values.insert key (substitute values value)
  | none => values

/-- Replaces the references in the values of all variables, one after the other. -/
def pass (values : OrderedMap) : OrderedMap := values.keys.foldl resolveKey values

/-- The variables whose values refer to variables. -/
def unsettled (values : OrderedMap) : List String :=
  (values.entries.filter fun (_, value) => refersTo values value).map Prod.fst

/-- Passes until no value refers to a variable, as often as the first argument allows. The answer
to a failure is the variables that are left. -/
def resolve : Nat → OrderedMap → Except (List String) Feeder
  | 0, values => .error (unsettled values)
  | bound + 1, values =>
    if (unsettled values).isEmpty then .ok ⟨values⟩ else resolve bound (pass values)

/-- The variables of an environment before any reference is replaced. -/
def declared (environment : Environment) : OrderedMap :=
  OrderedMap.ofList ((environment.filter (·.enabled)).map fun v => (v.key, translate v.value))

/-- The feeder of an environment, or the variables that refer to each other in a cycle. -/
def build (environment : Environment) : Except (List String) Feeder :=
  let values := declared environment
  resolve (values.size + 1) values

/-- The value of a variable. -/
def get? (f : Feeder) (key : String) : Option String := f.values.get? key

/-- The variables and their values in the order of declaration. -/
def toList (f : Feeder) : List (String × String) := f.values.entries

/-- The number of variables. -/
def size (f : Feeder) : Nat := f.values.size

/-- Whether there are no variables. -/
def isEmpty (f : Feeder) : Bool := f.values.isEmpty

/-- The feeder without variables. -/
def empty : Feeder := ⟨∅⟩

/-- The feeder as JSON: one record, in an array because a feeder file lists records. -/
def toJson (f : Feeder) : Json :=
  .array [.ofMembers (f.toList.map fun (key, value) => (key, .ofString value))]

/-- The text of the feeder file. -/
def document (f : Feeder) : String := f.toJson.pretty ++ "\n"

end Feeder

end LoadScenario
