import StatementTables.Formula.Expr
import StatementTables.Formula.Lexer

/-! # Reading formulas

The grammar, from the loosest to the tightest binding:

* sums and differences, products and quotients, powers: chains of operands that group to the left;
* signs before an operand, then percent signs after it;
* numbers, texts, cells, ranges, calls and anything in parentheses.

So signs and percent signs bind tighter than powers, and `2 ^ 3 ^ 2` is `(2 ^ 3) ^ 2`.  The name of
a sheet before a cell is read and dropped, since a grid is a single sheet.

A `Parser` takes tokens from the front of a list.  Those below take the parser for whole
expressions as an argument, and `expression n` ties the knot for up to `n` nested parentheses. -/

namespace StatementTables.Formula

/-- Reads a tree from the front of a list of tokens. -/
abbrev Parser := List Token → Except Fault (Expr × List Token)

/-! ### References -/

/-- The cell that a name denotes. -/
def referenceOf (name : String) : Except Fault Reference :=
  match Reference.parse? name with
  | some r => .ok r
  | none => .error (.invalidReference name)

/-- A cell or a range whose first cell is already read as a name. -/
def cellOrRange (name : String) (ts : List Token) : Except Fault (Expr × List Token) := do
  let first ← referenceOf name
  match ts with
  | .colon :: .name other :: rest =>
    let last ← referenceOf other
    return (.range first last, rest)
  | _ => return (.cell first, ts)

/-- A cell or a range after the name of a sheet. -/
def sheetReference : Parser
  | .name name :: rest => cellOrRange name rest
  | ts => .error (.missingReference ts.head?)

/-! ### Operands -/

/-- The arguments of a call up to its closing parenthesis; at most `n` of them. -/
def arguments (expr : Parser) : Nat → List Token → Except Fault (List Expr × List Token)
  | 0, ts => .error (.unclosedCall ts.head?)
  | n + 1, ts => do
    let (arg, rest) ← expr ts
    match rest with
    | .comma :: rest =>
      let (args, rest) ← arguments expr n rest
      return (arg :: args, rest)
    | .closing :: rest => return ([arg], rest)
    | _ => .error (.unclosedCall rest.head?)

/-- A name with ASCII letters in upper case. -/
def upper (name : String) : String :=
  .ofList (name.toList.map Char.toUpper)

/-- A number, a text, a cell, a range, a call, or an expression in parentheses. -/
def primary (expr : Parser) : Parser
  | .number x :: rest => .ok (.number x, rest)
  | .opening :: rest => do
    let (inner, rest) ← expr rest
    match rest with
    | .closing :: rest => return (inner, rest)
    | _ => .error (.unclosedParenthesis rest.head?)
  | .string _ :: .bang :: rest => sheetReference rest
  | .string content :: rest => .ok (.text content, rest)
  | .name name :: .opening :: .closing :: rest => .ok (.call (upper name) [], rest)
  | .name name :: .opening :: rest => do
    let (args, rest) ← arguments expr (rest.length + 1) rest
    return (.call (upper name) args, rest)
  | .name _ :: .bang :: rest => sheetReference rest
  | .name name :: rest => cellOrRange name rest
  | ts => .error (.unexpectedToken ts.head?)

/-- Percent signs after an operand, each a division by one hundred. -/
def percents (operand : Expr) : List Token → Expr × List Token
  | .percent :: rest => percents (.binary .divide operand (.number 100)) rest
  | ts => (operand, ts)

/-- An operand with its signs and percent signs. -/
def signed (expr : Parser) : Parser
  | .minus :: rest => do
    let (operand, rest) ← signed expr rest
    return (.negate operand, rest)
  | .plus :: rest => signed expr rest
  | ts => do
    let (operand, rest) ← primary expr ts
    return percents operand rest

/-! ### Chains -/

/-- Operators and operands after a first operand, at most `n` of them, grouped to the left. -/
def chainFrom (operand : Parser) (op? : Token → Option BinaryOp) :
    Nat → Expr → List Token → Except Fault (Expr × List Token)
  | n + 1, left, t :: ts =>
    match op? t with
    | some op => do
      let (right, rest) ← operand ts
      chainFrom operand op? n (.binary op left right) rest
    | none => .ok (left, t :: ts)
  | _, left, ts => .ok (left, ts)

/-- Operands joined by operators. -/
def chain (operand : Parser) (op? : Token → Option BinaryOp) : Parser := fun ts => do
  let (left, rest) ← operand ts
  chainFrom operand op? rest.length left rest

def powerOp? : Token → Option BinaryOp
  | .caret => some .power
  | _ => none

def productOp? : Token → Option BinaryOp
  | .star => some .multiply
  | .slash => some .divide
  | _ => none

def sumOp? : Token → Option BinaryOp
  | .plus => some .add
  | .minus => some .subtract
  | _ => none

def power (expr : Parser) : Parser := chain (signed expr) powerOp?

def product (expr : Parser) : Parser := chain (power expr) productOp?

def sum (expr : Parser) : Parser := chain (product expr) sumOp?

/-! ### Whole formulas -/

/-- An expression with less than `n` levels of parentheses. -/
def expression : Nat → Parser
  | 0, ts => .error (.unexpectedToken ts.head?)
  | n + 1, ts => sum (expression n) ts

/-- The tree of a formula given as its tokens. -/
def parseTokens (ts : List Token) : Except Fault Expr :=
  if ts.isEmpty then .error .empty
  else do
    let (tree, rest) ← expression (ts.length + 1) ts
    match rest with
    | [] => return tree
    | token :: _ => .error (.trailing token)

/-- The list without the equality signs at its front. -/
def dropEquals (cs : List Char) : List Char :=
  cs.dropWhile (· = '=')

/-- The tree of a formula, with or without an equality sign in front. -/
def parse (formula : String) : Except Fault Expr :=
  tokenize (dropEquals (Text.trimChars formula.toList)) >>= parseTokens

/-- A formula with one equality sign in front and no white space around it or after the sign;
nothing when there is nothing else. -/
def normalize? (formula : String) : Option String :=
  let body := Text.trimChars (dropEquals (Text.trimChars formula.toList))
  if body.isEmpty then none else some (.ofList ('=' :: body))

end StatementTables.Formula
