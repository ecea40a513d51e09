import StatementTables.Text.Digits
import StatementTables.Decimal.Numeral
import StatementTables.Cell.Value
import StatementTables.Pattern.Basic

/-! # Reading a cell's text

The raw text of a cell becomes a value in four steps: digits are unified, separators and
punctuation go (`normalizeToken`), a number in parentheses turns negative
(`negateParenthesized`), and what then spells a plain decimal is a number (`parseNumeric`).
`normalizeScalar` is all four together. -/

namespace StatementTables.Scalar

open Text

/-- Characters with each punctuation character replaced by a space. -/
def blankPunctuation (cs : List Char) : List Char :=
  cs.map fun c => if isAsciiPunctuation c then ' ' else c

/-- A text without what surrounds its number or its words.  A text with a percent sign loses the
signs only; one with a digit loses thousands separators; any other loses its punctuation. -/
def normalizeToken (token : String) : String :=
  let cs := token.toList
  if cs.contains '%' then .ofList (trimChars (without '%' cs))
  else if notANumber.contains token then token
  else if hasDigitGlyph cs then .ofList (trimChars (without ',' cs))
  else .ofList (trimChars (halvePairs ' ' (blankPunctuation (trimChars cs))))

/-! ### Numbers in parentheses -/

/-- The digits at the front of a list, and what follows them. -/
def spanDigits (cs : List Char) : List Char × List Char :=
  (cs.takeWhile isDecimalDigit, cs.dropWhile isDecimalDigit)

/-- Digits with at most one point inside, up to a closing parenthesis: the number, and what
follows the parenthesis. -/
def closedNumber? (cs : List Char) : Option (List Char × List Char) :=
  match spanDigits cs with
  | ([], _) => none
  | (whole, ')' :: rest) => some (whole, rest)
  | (whole, '.' :: tail) =>
    match spanDigits tail with
    | ([], _) => none
    | (fraction, ')' :: rest) => some (whole ++ '.' :: fraction, rest)
    | _ => none
  | _ => none

theorem length_of_spanDigits {cs ds rest : List Char} (h : spanDigits cs = (ds, rest)) :
    rest.length ≤ cs.length := by
  have := (List.dropWhile_sublist isDecimalDigit (l := cs)).length_le
  simp only [spanDigits, Prod.mk.injEq] at h
  rw [← h.2]
  exact this

theorem length_of_closedNumber? {cs number rest : List Char}
    (h : closedNumber? cs = some (number, rest)) : rest.length < cs.length := by
  unfold closedNumber? at h
  split at h
  · simp at h
  · rename_i heq
    have := length_of_spanDigits heq
    simp only [Option.some.injEq, Prod.mk.injEq] at h
    simp only [List.length_cons, h.2] at this
    omega
  · rename_i tail _ heq
    have outer := length_of_spanDigits heq
    split at h
    · simp at h
    · rename_i heq'
      have inner := length_of_spanDigits heq'
      simp only [Option.some.injEq, Prod.mk.injEq] at h
      simp only [List.length_cons, h.2] at inner outer
      omega
    · simp at h
  · simp at h

/-- Every `(n)` with a plain decimal `n` becomes `-n`. -/
def negateParenthesizedChars : List Char → List Char
  | [] => []
  | c :: cs =>
    if c = '(' then
      match h : closedNumber? cs with
      | some (number, rest) =>
        have : rest.length < cs.length := length_of_closedNumber? h
        '-' :: number ++ negateParenthesizedChars rest
      | none => c :: negateParenthesizedChars cs
    else c :: negateParenthesizedChars cs
termination_by cs => cs.length
decreasing_by all_goals (simp only [List.length_cons]; omega)

def negateParenthesized (token : String) : String :=
  .ofList (negateParenthesizedChars token.toList)

/-! ### Numbers -/

/-- The pattern `^[+-]?(?:\d+\.?\d*|\.\d+)(?:[eE][+-]?\d+)?$` of a number, with the decimal digits
of every script. -/
def numericPattern : Pattern :=
  let digit : Pattern := .char (.category .nd)
  let point : Pattern := .char (.single '.')
  let sign : Pattern := .repeated (.char (.union [.single '+', .single '-'])) 0 (some 1)
  let mark : Pattern := .char (.union [.single 'e', .single 'E'])
  .sequence [
    .condition .textStart,
    sign,
    .group (.choice [
      .sequence [.repeated digit 1 none, .repeated point 0 (some 1), .repeated digit 0 none],
      .sequence [point, .repeated digit 1 none]]),
    .repeated (.group (.sequence [mark, sign, .repeated digit 1 none])) 0 (some 1),
    .condition .textEnd]

/-- The number that a text is, apart from white space around it, if it is as the pattern describes
and denotes a double; else the text itself. -/
def parseNumeric (token : String) : CellValue :=
  let trimmed := trimChars token.toList
  if numericPattern.foundIn (.ofList trimmed) then
    match Decimal.readFloat? trimmed with
    | some x => .number x
    | none => .text token
  else .text token

/-- The value of a raw text. -/
def normalizeScalar (raw : String) : CellValue :=
  parseNumeric (negateParenthesized (normalizeToken (unifyDigits raw)))

end StatementTables.Scalar
