import LoadScenario.Json.Basic

/-!
# Writing JSON

A value is written either on one line without any space, or with each item and each member on a
line of its own, indented by two spaces for each level. An empty array or object takes no lines in
either form. A string escapes the double quote, the backslash and the control characters and
nothing else, the control characters with a letter of their own by that letter.
-/

namespace LoadScenario.Json

/-- The white space between the parts of a value. -/
structure Spacing where
  /-- What stands before an item or a closing bracket at a depth. -/
  lineBreak : Nat → List Char
  /-- What stands between a key and its value. -/
  colon : List Char

/-- Everything on one line. -/
def Spacing.compact : Spacing := ⟨fun _ => [], [':']⟩

/-- A line for each item, two spaces for each level. -/
def Spacing.indented : Spacing :=
  ⟨fun depth => '\n' :: List.replicate (2 * depth) ' ', [':', ' ']⟩

/-- The hexadecimal digit of a number below sixteen. -/
def hexDigit (n : Nat) : Char :=
  if n < 10 then Char.ofNat ('0'.toNat + n) else Char.ofNat ('a'.toNat + (n - 10))

/-- How a character is written in a string. -/
def escapeChar (c : Char) : List Char :=
  if c = '"' then ['\\', '"']
  else if c = '\\' then ['\\', '\\']
  else if c = '\x08' then ['\\', 'b']
  else if c = '\x0c' then ['\\', 'f']
  else if c = '\n' then ['\\', 'n']
  else if c = '\r' then ['\\', 'r']
  else if c = '\t' then ['\\', 't']
  else if c.toNat < 0x20 then
    ['\\', 'u', '0', '0', hexDigit (c.toNat / 16), hexDigit (c.toNat % 16)]
  else [c]

/-- How a text is written as a string. -/
def quote (s : String) : List Char := '"' :: (s.toList.flatMap escapeChar ++ ['"'])

/-- How a string is written; what is no text is written as the first half of a surrogate pair. -/
def quoteText : Json.Text → List Char
  | some s => quote s
  | none => ['"', '\\', 'u', 'd', '8', '0', '0', '"']

mutual

/-- How a value is written at a depth. -/
def write (spacing : Spacing) (depth : Nat) : Json → List Char
  | .null => "null".toList
  | .bool true => "true".toList
  | .bool false => "false".toList
  | .number digits => digits.toList
  | .string s => quoteText s
  | .array [] => ['[', ']']
  | .array (item :: rest) =>
    '[' :: (spacing.lineBreak (depth + 1) ++ write spacing (depth + 1) item ++
      writeItems spacing (depth + 1) rest ++ spacing.lineBreak depth ++ [']'])
  | .object [] => ['\x7b', '\x7d']
  | .object ((key, value) :: rest) =>
    '\x7b' :: (spacing.lineBreak (depth + 1) ++ quoteText key ++ spacing.colon ++
      write spacing (depth + 1) value ++ writeMembers spacing (depth + 1) rest ++
      spacing.lineBreak depth ++ ['\x7d'])

/-- How the items behind the first are written. -/
def writeItems (spacing : Spacing) (depth : Nat) : List Json → List Char
  | [] => []
  | item :: rest =>
    ',' :: (spacing.lineBreak depth ++ write spacing depth item ++ writeItems spacing depth rest)

/-- How the members behind the first are written. -/
def writeMembers (spacing : Spacing) (depth : Nat) : List (Json.Text × Json) → List Char
  | [] => []
  | (key, value) :: rest =>
    ',' :: (spacing.lineBreak depth ++ quoteText key ++ spacing.colon ++
      write spacing depth value ++ writeMembers spacing depth rest)

end

/-- A value on one line. -/
def compact (j : Json) : String := String.ofList (write .compact 0 j)

/-- A value with a line for each item and member. -/
def pretty (j : Json) : String := String.ofList (write .indented 0 j)

end LoadScenario.Json
