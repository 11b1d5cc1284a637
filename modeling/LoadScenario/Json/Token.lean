import LoadScenario.Json.Basic
import LoadScenario.Text.Search

/-!
# JSON tokens

The first half of reading: a text becomes a list of tokens, and white space between them is gone.
A string is decoded here, a number is only checked and kept as it is written.

The four white space characters of JSON are not the white space of test scripts, and a byte order
mark is neither, so a document must not start with one.
-/

namespace LoadScenario.Json

/-- A token of a document. The values that are one token are among them. -/
inductive Token where
  | openArray
  | closeArray
  | openObject
  | closeObject
  | comma
  | colon
  | text (s : Json.Text)
  | atom (value : Json)

/-- Whether a character may stand between tokens. -/
def isSpace (c : Char) : Bool := c = ' ' || c = '\n' || c = '\t' || c = '\r'

/-- The value of a hexadecimal digit. -/
def hexDigit? (c : Char) : Option Nat :=
  if '0' ≤ c ∧ c ≤ '9' then some (c.toNat - '0'.toNat)
  else if 'a' ≤ c ∧ c ≤ 'f' then some (c.toNat - 'a'.toNat + 10)
  else if 'A' ≤ c ∧ c ≤ 'F' then some (c.toNat - 'A'.toNat + 10)
  else none

/-- The value of four hexadecimal digits. -/
def hex4? (a b c d : Char) : Option Nat := do
  let a ← hexDigit? a
  let b ← hexDigit? b
  let c ← hexDigit? c
  let d ← hexDigit? d
  return ((a * 16 + b) * 16 + c) * 16 + d

/-- Whether a code unit starts a surrogate pair. -/
def isHighSurrogate (n : Nat) : Bool := 0xd800 ≤ n && n < 0xdc00

/-- Whether a code unit ends a surrogate pair. -/
def isLowSurrogate (n : Nat) : Bool := 0xdc00 ≤ n && n < 0xe000

/-- The character that a surrogate pair stands for. -/
def joinSurrogates (high low : Nat) : Char :=
  Char.ofNat (0x10000 + (high - 0xd800) * 0x400 + (low - 0xdc00))

/-- What an escape with a single letter stands for. -/
def shortEscape? : Char → Option Char
  | '"' => some '"'
  | '\\' => some '\\'
  | '/' => some '/'
  | 'b' => some '\x08'
  | 'f' => some '\x0c'
  | 'n' => some '\n'
  | 'r' => some '\r'
  | 't' => some '\t'
  | _ => none

/-- A character that a string may hold as it is. -/
def isPlain (c : Char) : Bool := 0x20 ≤ c.toNat

/-- The decoded part of a string: its characters in reverse and the first half of a surrogate pair
if one has just been read, or the fact that it is no text. -/
inductive Decoded where
  | text (before : List Char) (high : Option Nat)
  | noText

namespace Decoded

/-- Nothing decoded yet. -/
def start : Decoded := text [] none

/-- Adds a character. -/
def push (c : Char) : Decoded → Decoded
  | text before none => text (c :: before) none
  | _ => noText

/-- Adds a code unit that is given by its number. -/
def pushUnit (n : Nat) : Decoded → Decoded
  | text before none =>
    if isHighSurrogate n then text before (some n)
    else if isLowSurrogate n then noText
    else text (Char.ofNat n :: before) none
  | text before (some high) =>
    if isLowSurrogate n then text (joinSurrogates high n :: before) none else noText
  | noText => noText

/-- The decoded string. -/
def toText : Decoded → Json.Text
  | text before none => some (String.ofList before.reverse)
  | _ => none

end Decoded

/-- Reads a string from behind its opening quote. -/
def stringBody (decoded : Decoded) : List Char → Option (Json.Text × List Char)
  | '"' :: cs => some (decoded.toText, cs)
  | '\\' :: 'u' :: a :: b :: c :: d :: cs =>
    match hex4? a b c d with
    | some n => stringBody (decoded.pushUnit n) cs
    | none => none
  | '\\' :: e :: cs =>
    match shortEscape? e with
    | some c => stringBody (decoded.push c) cs
    | none => none
  | c :: cs => if isPlain c && c ≠ '\\' then stringBody (decoded.push c) cs else none
  | [] => none

/-- Reads one digit or more. -/
def digits? (cs : List Char) : Option (List Char × List Char) :=
  match cs.takeWhile Char.isDigit with
  | [] => none
  | ds => some (ds, cs.dropWhile Char.isDigit)

/-- Reads the digits before the point: no digit follows a leading zero. -/
def wholePart? (cs : List Char) : Option (List Char × List Char) :=
  match cs with
  | '0' :: rest => some (['0'], rest)
  | _ => digits? cs

/-- Reads the point and the digits behind it, if there is a point. -/
def fraction? (cs : List Char) : Option (List Char × List Char) :=
  match cs with
  | '.' :: rest => (digits? rest).map fun (ds, cs) => ('.' :: ds, cs)
  | _ => some ([], cs)

/-- Reads the sign of an exponent, if there is one. -/
def exponentSign (cs : List Char) : List Char × List Char :=
  match cs with
  | '+' :: rest => (['+'], rest)
  | '-' :: rest => (['-'], rest)
  | _ => ([], cs)

/-- Reads the exponent, if there is one. -/
def exponent? (cs : List Char) : Option (List Char × List Char) :=
  match cs with
  | [] => some ([], [])
  | e :: rest =>
    if e = 'e' ∨ e = 'E' then
      let (sign, cs) := exponentSign rest
      (digits? cs).map fun (ds, cs) => (e :: (sign ++ ds), cs)
    else
      some ([], e :: rest)

/-- Reads a number without its sign. -/
def unsignedNumber? (cs : List Char) : Option (List Char × List Char) := do
  let (whole, cs) ← wholePart? cs
  let (fraction, cs) ← fraction? cs
  let (exponent, cs) ← exponent? cs
  return (whole ++ fraction ++ exponent, cs)

/-- Reads a number. -/
def number? (cs : List Char) : Option (List Char × List Char) :=
  match cs with
  | '-' :: rest => (unsignedNumber? rest).map fun (n, cs) => ('-' :: n, cs)
  | _ => unsignedNumber? cs

/-- The keywords and their values. -/
def keywords : List (List Char × Json) :=
  [("null".toList, .null), ("true".toList, .bool true), ("false".toList, .bool false)]

/-- Reads the token at the start of a text that starts with no white space. -/
def token? : List Char → Option (Token × List Char)
  | [] => none
  | '[' :: cs => some (.openArray, cs)
  | ']' :: cs => some (.closeArray, cs)
  | '\x7b' :: cs => some (.openObject, cs)
  | '\x7d' :: cs => some (.closeObject, cs)
  | ',' :: cs => some (.comma, cs)
  | ':' :: cs => some (.colon, cs)
  | '"' :: cs => (stringBody .start cs).map fun (s, rest) => (.text s, rest)
  | cs =>
    match keywords.findSome? fun (w, v) => (Text.expect w cs).map fun rest => (.atom v, rest) with
    | some answer => some answer
    | none => (number? cs).map fun (n, rest) => (.atom (.number (String.ofList n)), rest)

/-- The tokens of a text behind those already read, which are given in reverse. The first argument
bounds the number of tokens still to come. -/
def tokensFrom : Nat → List Token → List Char → Option (List Token)
  | 0, _, _ => none
  | bound + 1, before, cs =>
    match cs.dropWhile isSpace with
    | [] => some before.reverse
    | cs =>
      match token? cs with
      | none => none
      | some (t, rest) => tokensFrom bound (t :: before) rest

/-- The tokens of a text; none if it is not made of tokens. -/
def tokens? (cs : List Char) : Option (List Token) := tokensFrom (cs.length + 1) [] cs

end LoadScenario.Json
