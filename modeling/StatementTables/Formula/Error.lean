import StatementTables.Formula.Token
import StatementTables.Formula.Reference

/-! # What can be wrong with a formula

`Fault` lists the ways in which a text is not a formula, `Mismatch` the ways in which a value does
not fit its place, and `FormulaError` everything that can keep a formula from having a value.
`message` gives each its wording. -/

namespace StatementTables.Formula

/-- Why a text is not a formula. -/
inductive Fault where
  | unterminatedString
  | invalidNumber (text : String)
  | unexpectedCharacter (c : Char)
  | empty
  | trailing (token : Token)
  | unexpectedToken (found : Option Token)
  | unclosedParenthesis (found : Option Token)
  | unclosedCall (found : Option Token)
  | missingReference (found : Option Token)
  | invalidReference (name : String)

def Fault.message : Fault → String
  | unterminatedString => "unterminated string"
  | invalidNumber text => "invalid number " ++ text
  | unexpectedCharacter c => "unexpected character " ++ Text.quotedCharacter c
  | empty => "empty formula"
  | trailing token => "unexpected trailing token " ++ token.text
  | unexpectedToken found => "unexpected token " ++ Token.shown found
  | unclosedParenthesis found => "expected RParen, found " ++ Token.shown found
  | unclosedCall found => "expected ',' or ')', found " ++ Token.shown found
  | missingReference found => "expected cell reference, found " ++ Token.shown found
  | invalidReference name => "invalid cell reference " ++ name

/-- Why a value does not fit its place. -/
inductive Mismatch where
  | rangeAsValue (first last : Reference)
  | textInArithmetic (content : String)
  | arity (name expected : String)
  | nonFinite

def Mismatch.message : Mismatch → String
  | rangeAsValue first last =>
    "range " ++ first.text ++ ":" ++ last.text ++ " used as a single value"
  | textInArithmetic content => "text " ++ Text.quoted content ++ " in arithmetic"
  | arity name expected => name ++ " expects " ++ expected ++ " argument(s)"
  | nonFinite => "non-finite result"

end StatementTables.Formula

namespace StatementTables

/-- Why a formula has no value. -/
inductive FormulaError where
  | malformed (fault : Formula.Fault)
  | circular (address : String)
  | unresolved (address : String)
  | divisionByZero
  | mismatch (cause : Formula.Mismatch)
  | unsupported (function : String)

def FormulaError.message : FormulaError → String
  | malformed fault => "syntax error: " ++ fault.message
  | circular address => "circular reference through " ++ address
  | unresolved address => "unresolved reference " ++ address
  | divisionByZero => "division by zero"
  | mismatch cause => "type mismatch: " ++ cause.message
  | unsupported function => "unsupported function " ++ function

end StatementTables
