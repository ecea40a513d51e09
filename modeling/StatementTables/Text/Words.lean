import StatementTables.Text.Classes

/-! # Words and trimming

White space at the ends of a text, the words between white space, and the two ways of replacing:
`halvePairs` shortens pairs of one character in a single pass, and `without` drops a character.
Everything works on character lists; `trim` and `contains` are also given for strings. -/

namespace StatementTables.Text

/-- The list without the white space at its front. -/
def trimStart (cs : List Char) : List Char :=
  cs.dropWhile isSpace

/-- The list without the white space at its end. -/
def trimEnd (cs : List Char) : List Char :=
  (cs.reverse.dropWhile isSpace).reverse

def trimChars (cs : List Char) : List Char :=
  trimEnd (trimStart cs)

/-- The text without white space at its ends. -/
def trim (text : String) : String :=
  .ofList (trimChars text.toList)

/-- Whether a text has nothing but white space. -/
def isBlank (text : String) : Bool :=
  text.toList.all isSpace

/-- The words of a list, where `word` holds the characters of the current one. -/
def wordsFrom (word : List Char) : List Char → List (List Char)
  | [] => if word.isEmpty then [] else [word]
  | c :: rest =>
    if isSpace c then
      if word.isEmpty then wordsFrom [] rest else word :: wordsFrom [] rest
    else wordsFrom (word ++ [c]) rest

/-- The longest stretches without white space, in order. -/
def words (cs : List Char) : List (List Char) :=
  wordsFrom [] cs

/-- Words with one space between neighbours. -/
def unwords : List (List Char) → List Char
  | [] => []
  | [word] => word
  | word :: rest => word ++ ' ' :: unwords rest

/-- Replaces each pair of neighbours equal to `c`, from the front, by a single one. -/
def halvePairs (c : Char) : List Char → List Char
  | a :: b :: rest =>
    if a = c ∧ b = c then c :: halvePairs c rest else a :: halvePairs c (b :: rest)
  | cs => cs

/-- The list without a character. -/
def without (c : Char) (cs : List Char) : List Char :=
  cs.filter (· ≠ c)

/-- Whether one list occurs as a contiguous part of another. -/
def occursIn (part : List Char) : List Char → Bool
  | [] => part.isEmpty
  | c :: cs => part.isPrefixOf (c :: cs) || occursIn part cs

/-- Whether `text` contains `part`; the empty text is part of every text. -/
def contains (text part : String) : Bool :=
  occursIn part.toList text.toList

end StatementTables.Text
