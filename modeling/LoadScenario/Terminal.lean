import LoadScenario.Text.Search

/-!
# Terminal colours

Messages are coloured if the terminal can show it and the user has not said otherwise. A coloured
text stands between the sequence that sets its style and the one that resets it. If a text brings a
reset of its own, its style is set again behind that, so the rest of it keeps its colour.
-/

namespace LoadScenario

open Text

/-- The styles of messages. -/
inductive Style where
  | bold
  | green
  | yellow
  | cyan
  | brightYellow
  | brightBlue
  | brightCyan
  deriving DecidableEq

namespace Style

/-- The number of a style in an escape sequence. -/
def code : Style → String
  | bold => "1"
  | green => "32"
  | yellow => "33"
  | cyan => "36"
  | brightYellow => "93"
  | brightBlue => "94"
  | brightCyan => "96"

/-- The sequence that sets a style. -/
def setting (s : Style) : String := "\x1b[" ++ s.code ++ "m"

/-- The sequence that ends all styles. -/
def reset : String := "\x1b[0m"

end Style

/-- A text in a style, if colours are on. -/
def paint (color : Bool) (style : Style) (s : String) : String :=
  if color then
    let again := replaceWord Style.reset.toList (Style.reset ++ style.setting).toList s.toList
    style.setting ++ String.ofList again ++ Style.reset
  else
    s

/-- Whether a colour variable that is set says yes. -/
def saysYes (value : String) : Bool := value ≠ "0"

/-- Whether messages are coloured, given the process variables: forcing colours comes before
forbidding them, and otherwise the terminal decides, unless it is told not to. -/
def usesColor (lookup : String → Option String) (isTerminal : Bool) : Bool :=
  if ((lookup "CLICOLOR_FORCE").map saysYes).getD false then true
  else if (lookup "NO_COLOR").isSome then false
  else ((lookup "CLICOLOR").map saysYes).getD true && isTerminal

end LoadScenario
