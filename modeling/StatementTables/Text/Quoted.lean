import StatementTables.Text.Classes

/-! # Quoted text

Texts and characters as error messages show them: between quotation marks, with the quotation
mark, the backslash and every character that has no shape of its own written as an escape. -/

namespace StatementTables.Text

/-- Lower-case hexadecimal digits, without leading zeros. -/
def hexDigits (n : Nat) : List Char :=
  Nat.toDigits 16 n

/-- One character inside quotation marks of the kind `mark`. -/
def quotedChar (mark c : Char) : List Char :=
  if c = '\x00' then ['\\', '0']
  else if c = '\t' then ['\\', 't']
  else if c = '\r' then ['\\', 'r']
  else if c = '\n' then ['\\', 'n']
  else if c = '\\' ∨ c = mark then ['\\', c]
  else if !isExtending c && isPrintable c then [c]
  else ['\\', 'u', '\x7b'] ++ hexDigits c.toNat ++ ['\x7d']

/-- A text between double quotation marks. -/
def quoted (text : String) : String :=
  .ofList ('"' :: (text.toList.flatMap (quotedChar '"')) ++ ['"'])

/-- A character between apostrophes. -/
def quotedCharacter (c : Char) : String :=
  .ofList ('\'' :: quotedChar '\'' c ++ ['\''])

end StatementTables.Text
