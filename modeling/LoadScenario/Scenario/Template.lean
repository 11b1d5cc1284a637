import LoadScenario.Text.Search

/-!
# Scenario templates

The text around the requests comes from a template with three tokens. The token of the name may
stand anywhere and as often as needed, while the feed step and the requests are put in once, each
in the place of its first token. The tokens are replaced one kind after the other, the requests
last, so whatever a request holds stays as it is.
-/

namespace LoadScenario.Scenario

open Text

/-- A token of a template: a name between two pairs of braces. -/
def token (name : String) : List Char := ['\x7b', '\x7b'] ++ name.toList ++ ['\x7d', '\x7d']

/-- The token in whose place the name of the simulation stands. -/
def nameToken : List Char := token "outputName"

/-- The token in whose place the feed step stands. -/
def feederToken : List Char := token "feeder"

/-- The token in whose place the requests stand. -/
def requestsToken : List Char := token "requests"

/-- Fills a template. -/
def fill (template simulation feed requests : String) : String :=
  let named := replaceWord nameToken simulation.toList template.toList
  let fed := replaceFirst feederToken feed.toList named
  String.ofList (replaceFirst requestsToken requests.toList fed)

/-- The lines of the template that is used if the user gives none. -/
def defaultTemplateLines : List String := [
  "import scala.concurrent.duration._",
  "",
  "import io.gatling.core.Predef._",
  "import io.gatling.http.Predef._",
  "",
  "class \x7b\x7boutputName\x7d\x7d extends Simulation \x7b",
  "",
  "  val httpProtocol = http",
  "    .acceptHeader(\"*/*\")",
  "    .userAgentHeader(\"postman2gatling\")",
  "",
  "  val scn = scenario(\"\x7b\x7boutputName\x7d\x7d\")",
  "\x7b\x7bfeeder\x7d\x7d\x7b\x7brequests\x7d\x7d",
  "  setUp(scn.inject(atOnceUsers(1))).protocols(httpProtocol)",
  "\x7d",
  ""]

/-- The template that is used if the user gives none. -/
def defaultTemplate : String := "\n".intercalate defaultTemplateLines

end LoadScenario.Scenario
