import StatementTables.Text.Words

/-! # Digits of three scripts

Amounts come in ASCII, Arabic-Indic or Persian digits.  `unifyDigits` writes the digits of every
word that has one in ASCII, together with the Arabic decimal and thousands separators, and leaves
the other words alone; white space becomes one space between words and none at the ends.
`cleanLabel` does this for header texts. -/

namespace StatementTables.Text

/-- The value of an Arabic-Indic or Persian digit. -/
def localDigit? (c : Char) : Option Nat :=
  let n := c.toNat
  if 0x660 ≤ n ∧ n ≤ 0x669 then some (n - 0x660)
  else if 0x6F0 ≤ n ∧ n ≤ 0x6F9 then some (n - 0x6F0)
  else none

/-- The ASCII digit of a value below ten. -/
def asciiDigit (n : Nat) : Char :=
  Char.ofNat ('0'.toNat + n)

/-- Digits of the three scripts. -/
def isDigitGlyph (c : Char) : Bool :=
  c.isDigit || (localDigit? c).isSome

def hasDigitGlyph (cs : List Char) : Bool :=
  cs.any isDigitGlyph

/-- Whether a text has a digit of one of the three scripts. -/
def hasDigit (text : String) : Bool :=
  hasDigitGlyph text.toList

/-- A character of a word that has a digit. -/
def unifyChar (c : Char) : Char :=
  if c = '٫' then '.'
  else if c = '٬' then ','
  else match localDigit? c with
    | some n => asciiDigit n
    | none => c

/-- A word is rewritten only when it has a digit. -/
def unifyWord (word : List Char) : List Char :=
  if hasDigitGlyph word then word.map unifyChar else word

/-- Words that stand for a missing number and are kept as they are. -/
def notANumber : List String :=
  ["nan", "NaN", "None"]

/-- ASCII digits in every word with a digit, and single spaces between the words. -/
def unifyDigits (text : String) : String :=
  if notANumber.contains text then text
  else .ofList (unwords ((words text.toList).map unifyWord))

/-- The text of a header: digits unified, punctuation kept. -/
def cleanLabel (text : String) : String :=
  unifyDigits (trim text)

end StatementTables.Text
