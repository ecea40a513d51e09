import StatementTables.Text.Quoted
import StatementTables.Decimal.Layout

/-! # Tokens of formulas

The words of the formula language.  `Token.shown` is how error messages show a token, or the end
of the formula where one was looked for. -/

namespace StatementTables.Formula

inductive Token where
  | number (value : Float)
  /-- The name of a cell, a sheet or a function. -/
  | name (text : String)
  | string (content : String)
  | plus
  | minus
  | star
  | slash
  | caret
  | percent
  | colon
  /-- A comma or a semicolon. -/
  | comma
  | bang
  | opening
  | closing

/-- A token in an error message. -/
def Token.text : Token → String
  | number x => "Number(" ++ Decimal.write .message x ++ ")"
  | name s => "Ident(" ++ Text.quoted s ++ ")"
  | string s => "Str(" ++ Text.quoted s ++ ")"
  | plus => "Plus"
  | minus => "Minus"
  | star => "Star"
  | slash => "Slash"
  | caret => "Caret"
  | percent => "Percent"
  | colon => "Colon"
  | comma => "Comma"
  | bang => "Bang"
  | opening => "LParen"
  | closing => "RParen"

/-- A token, or the end of the formula. -/
def Token.shown : Option Token → String
  | some token => token.text
  | none => "Eof"

end StatementTables.Formula
