import LoadScenario.Text.Character.Table

/-!
# Classes of characters

White space separates the parts of a header line and stands freely between the tokens of a test
script. It is the Unicode property of that name, so a no-break space or a line separator that was
pasted into a script counts, and a zero width space does not.

Names of variables in a test script are made of word characters, and a status code ends where the
next word character would run into it. Both classes cover every script: a name may be Japanese,
and an Arabic digit is a digit, although it spells no status code.

Where a name ends without any mark, it ends at the first character that is neither a letter nor a
number. This is not the class of word characters: a superscript two or a fraction is a number,
although it stands in no word, and an accent that is written as a character of its own belongs to
the word it stands in, although it is neither.
-/

namespace LoadScenario.Text

/-! ## White space -/

/-- The characters with the Unicode property White_Space. -/
def blankRanges : Ranges := [
    (0x09, 0x0d), (0x20, 0x20), (0x85, 0x85), (0xa0, 0xa0), (0x1680, 0x1680), (0x2000, 0x200a),
    (0x2028, 0x2029), (0x202f, 0x202f), (0x205f, 0x205f), (0x3000, 0x3000)]

/-- Whether a character is white space. -/
def isBlank (c : Char) : Bool := blankRanges.contains c.toNat

/-- The text from its first character that is not white space. -/
def skipBlank (cs : List Char) : List Char := cs.dropWhile isBlank

/-- The text without the white space at its end. -/
def trimEnd (cs : List Char) : List Char := (cs.reverse.dropWhile isBlank).reverse

/-- The text without the white space around it. -/
def trim (cs : List Char) : List Char := trimEnd (skipBlank cs)

/-! ## Words, digits and letters -/

/-- Whether a character may stand in a word. -/
def isWord (c : Char) : Bool := wordRanges.contains c.toNat

/-- Whether a character is a decimal digit of some script. -/
def isDigit (c : Char) : Bool := digitRanges.contains c.toNat

/-- Whether a word character stands there. -/
def isWord? (c : Option Char) : Bool := c.any isWord

/-- The value of a number written in the ten ASCII digits; none if another character occurs. -/
def decimal? (digits : List Char) : Option Nat :=
  if digits.all Char.isDigit then
    some (digits.foldl (fun n c => 10 * n + (c.toNat - '0'.toNat)) 0)
  else
    none

/-- Whether a character is a letter or a number of some script. -/
def isAlphanumeric (c : Char) : Bool := alphanumericRanges.contains c.toNat

end LoadScenario.Text
