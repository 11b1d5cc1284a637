import LoadScenario.Request.Basic

/-!
# Request blocks

Each request becomes one step of the scenario, a block of lines in a fixed order: the name, the
method with the address, the authentication, the headers, the body and the checks. What a request
does not have takes no line. The step that feeds the variables is a line of its own in front of
the first request.

A scenario is Scala source, and the texts of a request stand in it as string literals between
double quotes. A backslash is doubled first, then each double quote gets a backslash in front, so
that reading the literal gives back the text and no text can end it early.
-/

namespace LoadScenario.Scenario

/-- A text with its backslashes and double quotes escaped. -/
def escapeLiteral (cs : List Char) : List Char :=
  cs.flatMap fun c => if c = '\\' ∨ c = '"' then ['\\', c] else [c]

/-- A text as a string literal. -/
def literal (s : String) : String := String.ofList ('"' :: (escapeLiteral s.toList ++ ['"']))

/-- The white space in front of a line at a depth. -/
def indent (depth : Nat) : String := String.ofList (List.replicate (2 * depth) ' ')

/-- Texts separated by commas. -/
def commaList (l : List String) : String := ", ".intercalate l

/-- A call of a method with some arguments. -/
def call (method : String) (arguments : List String) : String :=
  "." ++ method ++ "(" ++ commaList arguments ++ ")"

/-- The check of the right status codes: equality for one, membership for several. -/
def statusChecks : List Nat → List String
  | [] => []
  | [code] => ["status.is(" ++ toString code ++ ")"]
  | codes => ["status.in(" ++ commaList (codes.map toString) ++ ")"]

/-- The expression that keeps a value. -/
def captureCheck : Capture → String
  | .literal name value =>
    "status.transform(string => " ++ literal value ++ ").saveAs(" ++ literal name ++ ")"
  | .json name path => "jsonPath(" ++ literal ("$." ++ path) ++ ").saveAs(" ++ literal name ++ ")"

/-- The expressions of all checks: right status codes, wrong ones, patterns of the body, and the
values to keep. -/
def checkCalls (c : Checks) : List String :=
  statusChecks c.status ++
  c.notStatus.map (fun code => "status.not(" ++ toString code ++ ")") ++
  c.bodyHas.map (fun pattern => "regex(" ++ literal pattern ++ ").exists") ++
  c.captures.map captureCheck

/-- The lines that group the checks, the expressions separated by commas at the line ends. -/
def checkLines (depth : Nat) (c : Checks) : List String :=
  match checkCalls c with
  | [] => []
  | expressions =>
    [indent (depth + 1) ++ ".check(",
      ",\n".intercalate (expressions.map (indent (depth + 2) ++ ·)),
      indent (depth + 1) ++ ")"]

/-- The file of a body as the scenario names it, below the directory of all bodies. -/
def resource (simulation : String) (b : Body) : String := simulation ++ "/" ++ b.filename

/-- The lines of a request. -/
def requestLines (simulation : String) (depth : Nat) (r : Request) : List String :=
  let inner (line : String) : String := indent (depth + 1) ++ line
  [indent depth ++ ".exec(http(" ++ literal r.name ++ ")", inner (call r.method [literal r.url])] ++
  r.auth.toList.map (fun a => inner (call a.scheme.builder [literal a.user, literal a.password])) ++
  r.headers.entries.map (fun (key, value) => inner (call "header" [literal key, literal value])) ++
  r.body.toList.map
    (fun b => inner (call "body" ["RawFileBody(" ++ literal (resource simulation b) ++ ")"])) ++
  checkLines depth r.checks ++
  [indent depth ++ ")"]

/-- The block of a request. -/
def block (simulation : String) (depth : Nat) (r : Request) : String :=
  "\n".intercalate (requestLines simulation depth r) ++ "\n"

/-- The blocks of requests one after the other. -/
def blocks (simulation : String) (depth : Nat) (rs : List Request) : String :=
  String.join (rs.map (block simulation depth))

/-- The line that feeds the variables of a simulation from its feeder file. -/
def feedLine (simulation : String) (depth : Nat) : String :=
  indent depth ++ ".feed(jsonFile(" ++ literal (simulation ++ ".json") ++ ").circular)\n"

end LoadScenario.Scenario
