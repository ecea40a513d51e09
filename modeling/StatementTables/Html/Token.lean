import StatementTables.Html.Reference

/-! # Tokens of markup

A page is a sequence of tokens: tags, texts, comments and document types.  `scan` reads the one at
the front of a list of characters.  How it reads depends on `Content`, which a start tag may
change for what follows it: in the content of a script, say, nothing but the script's own end tag
is markup. -/

namespace StatementTables.Html

structure Tag where
  name : String
  attributes : List (String × String)
  selfClosing : Bool

inductive Token where
  /-- A document type, and whether pages of that type are laid out by older rules. -/
  | doctype (legacy : Bool)
  | start (tag : Tag)
  | close (name : String)
  | comment
  /-- A null character. -/
  | nul
  /-- Characters that are all white space, or none of which has to be. -/
  | text (blank : Bool) (content : String)
  | eof

/-- How the characters after a start tag are read. -/
inductive Content where
  /-- As tags, references and text. -/
  | data
  /-- As references and text up to the end tag of a name. -/
  | escapable (name : String)
  /-- As text up to the end tag of a name. -/
  | raw (name : String)
  /-- As a script. -/
  | script
  /-- As text up to the end. -/
  | plain

/-! ### Characters -/

/-- White space between the parts of a tag. -/
def isSpace (c : Char) : Bool :=
  c = '\t' || c = '\n' || c = '\x0c' || c = '\r' || c = ' '

def lower (cs : List Char) : List Char :=
  cs.map Char.toLower

/-- A null character where it is not allowed. -/
def replaceNul (c : Char) : Char :=
  if c = '\x00' then '\uFFFD' else c

/-- Line ends of all kinds as line feeds. -/
def unifyLines : List Char → List Char
  | '\r' :: '\n' :: cs => '\n' :: unifyLines cs
  | '\r' :: cs => '\n' :: unifyLines cs
  | c :: cs => c :: unifyLines cs
  | [] => []

/-- The rest of a list that starts with a text, without regard to the case of letters. -/
def afterWord? (word : List Char) (cs : List Char) : Option (List Char) :=
  if lower (cs.take word.length) = word then some (cs.drop word.length) else none

/-- The list after the next `>`. -/
def skipPast (cs : List Char) : List Char :=
  (cs.dropWhile (· ≠ '>')).drop 1

/-! ### Character references -/

/-- What the codes from 128 to 159 stand for, in order; zero for themselves. -/
def highControls : List Nat :=
  [0x20AC, 0, 0x201A, 0x0192, 0x201E, 0x2026, 0x2020, 0x2021, 0x02C6, 0x2030, 0x0160, 0x2039,
   0x0152, 0, 0x017D, 0, 0, 0x2018, 0x2019, 0x201C, 0x201D, 0x2022, 0x2013, 0x2014, 0x02DC,
   0x2122, 0x0161, 0x203A, 0x0153, 0, 0x017E, 0x0178]

/-- The character of a numeric reference. -/
def numericCharacter (code : Nat) : Char :=
  if code = 0 ∨ 0x10FFFF < code ∨ (0xD800 ≤ code ∧ code ≤ 0xDFFF) then '\uFFFD'
  else if 0x80 ≤ code ∧ code ≤ 0x9F then
    let other := highControls.getD (code - 0x80) 0
    Char.ofNat (if other = 0 then code else other)
  else Char.ofNat code

def hexValue? (c : Char) : Option Nat :=
  if c.isDigit then some (c.toNat - '0'.toNat)
  else if 'a' ≤ c ∧ c ≤ 'f' then some (c.toNat - 'a'.toNat + 10)
  else if 'A' ≤ c ∧ c ≤ 'F' then some (c.toNat - 'A'.toNat + 10)
  else none

/-- The list without a semicolon at its front. -/
def dropSemicolon : List Char → List Char
  | ';' :: cs => cs
  | cs => cs

/-- A number in some base as a reference; nothing without a digit. -/
def readNumeric (base : Nat) (isDigit : Char → Bool) (cs : List Char) :
    Option (List Char × List Char) :=
  match cs.takeWhile isDigit with
  | [] => none
  | digits =>
    let code := digits.foldl (fun n c => base * n + (hexValue? c).getD 0) 0
    some ([numericCharacter code], dropSemicolon (cs.dropWhile isDigit))

/-- The longest name of a reference at the front of a list, and its code points. -/
def longestName? (cs : List Char) : Option (List Char × List Nat) :=
  namedReferences.foldl (fun best entry =>
    let name := entry.1.toList
    if name.isPrefixOf cs && decide ((best.map fun b => b.1.length).getD 0 < name.length) then
      some (name, entry.2)
    else best) none

/-- What follows an ampersand, if that starts a reference: its characters, and what comes after.
In an attribute a name without semicolon is no reference when more of a word or an equality sign
follows. -/
def readReference (inAttribute : Bool) : List Char → Option (List Char × List Char)
  | '#' :: 'x' :: cs => readNumeric 16 (fun c => (hexValue? c).isSome) cs
  | '#' :: 'X' :: cs => readNumeric 16 (fun c => (hexValue? c).isSome) cs
  | '#' :: cs => readNumeric 10 Char.isDigit cs
  | cs =>
    match longestName? cs with
    | none => none
    | some (name, codes) =>
      let rest := cs.drop name.length
      let goesOn := match rest with
        | c :: _ => c = '=' || c.isAlphanum
        | [] => false
      if inAttribute && name.getLast? != some ';' && goesOn then none
      else some (codes.map Char.ofNat, rest)

/-- The value of an attribute with its references replaced; `fuel` bounds its length. -/
def decodeValue : Nat → List Char → List Char
  | 0, _ => []
  | _, [] => []
  | fuel + 1, '&' :: cs =>
    match readReference true cs with
    | some (decoded, rest) => decoded ++ decodeValue fuel rest
    | none => '&' :: decodeValue fuel cs
  | fuel + 1, c :: cs => replaceNul c :: decodeValue fuel cs

/-! ### Tags -/

/-- The value of an attribute after its equality sign, still undecoded; none when it has no end. -/
def readValue : List Char → Option (List Char × List Char)
  | '"' :: cs =>
    match cs.dropWhile (· ≠ '"') with
    | _ :: rest => some (cs.takeWhile (· ≠ '"'), rest)
    | [] => none
  | '\'' :: cs =>
    match cs.dropWhile (· ≠ '\'') with
    | _ :: rest => some (cs.takeWhile (· ≠ '\''), rest)
    | [] => none
  | cs =>
    let inside (c : Char) : Bool := !isSpace c && c ≠ '>'
    some (cs.takeWhile inside, cs.dropWhile inside)

/-- The attributes of a tag up to its end, and whether a slash is before the end; none when the
tag has no end.  Of attributes with one name the first counts. -/
def readAttributes : Nat → List (String × String) → List Char →
    Option (List (String × String) × Bool × List Char)
  | 0, _, _ => none
  | fuel + 1, seen, cs =>
    match cs.dropWhile isSpace with
    | [] => none
    | '>' :: rest => some (seen.reverse, false, rest)
    | '/' :: '>' :: rest => some (seen.reverse, true, rest)
    | '/' :: rest => readAttributes fuel seen rest
    | c :: cs =>
      let inside (c : Char) : Bool := !isSpace c && c ≠ '/' && c ≠ '>' && c ≠ '='
      let name := String.ofList ((lower (c :: cs.takeWhile inside)).map replaceNul)
      let add (value : List Char) : List (String × String) :=
        if (seen.lookup name).isSome then seen
        else (name, .ofList (decodeValue (value.length + 1) value)) :: seen
      match (cs.dropWhile inside).dropWhile isSpace with
      | '=' :: rest => do
        let (value, rest) ← readValue (rest.dropWhile isSpace)
        readAttributes fuel (add value) rest
      | rest => readAttributes fuel (add []) rest

/-- A tag from its name on; none when it has no end. -/
def readTag (cs : List Char) : Option (Tag × List Char) := do
  let inside (c : Char) : Bool := !isSpace c && c ≠ '/' && c ≠ '>'
  let name := String.ofList ((lower (cs.takeWhile inside)).map replaceNul)
  let rest := cs.dropWhile inside
  let (attributes, selfClosing, rest) ← readAttributes (rest.length + 1) [] rest
  return (⟨name, attributes, selfClosing⟩, rest)

/-! ### Comments and document types -/

/-- How much of the end of a comment has been seen. -/
inductive CommentEnd where
  /-- Right after the start of the comment. -/
  | opened
  /-- After a hyphen right after the start. -/
  | openedDash
  | none
  | dash
  | dashes
  /-- After two hyphens and an exclamation mark. -/
  | bang

/-- What follows a comment. -/
def skipComment : CommentEnd → List Char → List Char
  | _, [] => []
  | .opened, c :: cs =>
    if c = '-' then skipComment .openedDash cs
    else if c = '>' then cs
    else skipComment .none cs
  | .openedDash, c :: cs =>
    if c = '-' then skipComment .dashes cs
    else if c = '>' then cs
    else skipComment .none cs
  | .none, c :: cs => skipComment (if c = '-' then .dash else .none) cs
  | .dash, c :: cs => skipComment (if c = '-' then .dashes else .none) cs
  | .dashes, c :: cs =>
    if c = '>' then cs
    else if c = '!' then skipComment .bang cs
    else skipComment (if c = '-' then .dashes else .none) cs
  | .bang, c :: cs =>
    if c = '>' then cs else skipComment (if c = '-' then .dash else .none) cs

/-- A document type: its identifiers, and whether it is malformed. -/
structure Doctype where
  name : List Char
  publicId : Option (List Char)
  systemId : Option (List Char)
  malformed : Bool

/-- Types of documents before version 4.01 of the language, by a part of their identifiers. -/
def legacyTypes : List String :=
  ["dtd html 2.", "dtd html 3", "dtd html 4.0 frameset", "dtd html 4.0 transitional",
   "dtd html level", "dtd html strict", "dtd html//", "dtd html experimental", "dtd w3 html"]

/-- Types of documents that are laid out by older rules unless they also name a system. -/
def transitionalTypes : List String :=
  ["dtd html 4.01 frameset//", "dtd html 4.01 transitional//"]

/-- Whether a list has another one as a part. -/
def hasPart (part : List Char) : List Char → Bool
  | [] => part.isEmpty
  | c :: cs => part.isPrefixOf (c :: cs) || hasPart part cs

/-- Whether pages of this type are laid out by older rules. -/
def Doctype.isLegacy (d : Doctype) : Bool :=
  let hasOne (types : List String) (id : List Char) : Bool :=
    types.any fun t => hasPart t.toList (lower id)
  d.malformed || d.name != "html".toList ||
    (match d.publicId with
    | some id =>
      lower id == "html".toList || hasOne legacyTypes id ||
        (d.systemId.isNone && hasOne transitionalTypes id)
    | none => false)

/-- A quoted identifier: its text, whether it is closed, and what follows; nothing without a
quotation mark. -/
def readIdentifier? (cs : List Char) : Option (List Char × Bool × List Char) :=
  match cs.dropWhile isSpace with
  | q :: rest =>
    if q = '"' ∨ q = '\'' then
      let inside (c : Char) : Bool := c ≠ q && c ≠ '>'
      match rest.dropWhile inside with
      | c :: after => some (rest.takeWhile inside, c == q, after)
      | [] => some (rest, false, [])
    else none
  | [] => none

/-- What follows the last identifier of a document type. -/
def finishDoctype (d : Doctype) (cs : List Char) : Doctype × List Char :=
  match cs.dropWhile isSpace with
  | [] => ({ d with malformed := true }, [])
  | cs => (d, skipPast cs)

/-- A system identifier and what follows it. -/
def readSystem (d : Doctype) (cs : List Char) : Doctype × List Char :=
  match readIdentifier? cs with
  | some (id, true, rest) => finishDoctype { d with systemId := some id } rest
  | some (_, false, rest) => ({ d with malformed := true }, rest)
  | none => ({ d with malformed := true }, skipPast cs)

/-- A document type after the word that announces it. -/
def readDoctype (cs : List Char) : Doctype × List Char :=
  let broken : Doctype := ⟨[], none, none, true⟩
  let inside (c : Char) : Bool := !isSpace c && c ≠ '>'
  match cs.dropWhile isSpace with
  | [] => (broken, [])
  | '>' :: rest => (broken, rest)
  | cs =>
    let d : Doctype := ⟨lower (cs.takeWhile inside), none, none, false⟩
    match (cs.dropWhile inside).dropWhile isSpace with
    | [] => ({ d with malformed := true }, [])
    | '>' :: rest => (d, rest)
    | cs =>
      match afterWord? "public".toList cs, afterWord? "system".toList cs with
      | some rest, _ =>
        match readIdentifier? rest with
        | some (id, true, rest) =>
          let d := { d with publicId := some id }
          match rest.dropWhile isSpace with
          | '>' :: rest => (d, rest)
          | rest => readSystem d rest
        | some (_, false, rest) => ({ d with malformed := true }, rest)
        | none => ({ d with malformed := true }, skipPast rest)
      | none, some rest => readSystem d rest
      | none, none => ({ d with malformed := true }, skipPast cs)

/-! ### Text -/

/-- Whether the end tag of a name starts a list. -/
def closes (name : List Char) : List Char → Bool
  | '<' :: '/' :: cs =>
    match afterWord? name cs with
    | some (c :: _) => isSpace c || c = '/' || c = '>'
    | _ => false
  | _ => false

/-- The text up to the end tag of a name, and the rest from there. -/
def spanRaw (name : List Char) : List Char → List Char × List Char
  | [] => ([], [])
  | c :: cs =>
    if closes name (c :: cs) then ([], c :: cs)
    else
      let (text, rest) := spanRaw name cs
      (replaceNul c :: text, rest)

/-- Where in a script a character stands: outside of comments, in a comment, or in a script inside
a comment; in the latter two with the number of hyphens before it, counted up to two. -/
inductive ScriptPlace where
  | outside
  | comment (dashes : Nat)
  | nested (dashes : Nat)

/-- Whether the word of a script tag starts a list. -/
def startsScript (cs : List Char) : Bool :=
  match afterWord? "script".toList cs with
  | some (c :: _) => isSpace c || c = '/' || c = '>'
  | _ => false

/-- The place after a character of a script and before the rest. -/
def ScriptPlace.next (place : ScriptPlace) (c : Char) (rest : List Char) : ScriptPlace :=
  match place with
  | outside => outside
  | comment dashes =>
    if c = '-' then comment (min 2 (dashes + 1))
    else if c = '>' ∧ dashes = 2 then outside
    else if c = '<' ∧ startsScript rest then nested 0
    else comment 0
  | nested dashes =>
    if c = '-' then nested (min 2 (dashes + 1))
    else if c = '>' ∧ dashes = 2 then outside
    else if c = '<' then
      match rest with
      | '/' :: rest => if startsScript rest then comment 0 else nested 0
      | _ => nested 0
    else nested 0

/-- Whether the end tag of a script counts at a place. -/
def ScriptPlace.mayClose : ScriptPlace → Bool
  | nested _ => false
  | _ => true

/-- The text of a script up to its end tag, and the rest from there. -/
def spanScript (place : ScriptPlace) : List Char → List Char × List Char
  | [] => ([], [])
  | '<' :: '!' :: '-' :: '-' :: cs =>
    match place with
    | .outside =>
      let (text, rest) := spanScript (.comment 2) cs
      ('<' :: '!' :: '-' :: '-' :: text, rest)
    | place =>
      -- the hyphens count towards the end of the comment
      let inside := match place with
        | .nested _ => ScriptPlace.nested 2
        | _ => ScriptPlace.comment 2
      let (text, rest) := spanScript inside cs
      ('<' :: '!' :: '-' :: '-' :: text, rest)
  | c :: cs =>
    if place.mayClose && closes "script".toList (c :: cs) then ([], c :: cs)
    else
      let (text, rest) := spanScript (place.next c cs) cs
      (replaceNul c :: text, rest)

/-- Text without references and markup, of white space only or of anything else. -/
def spanText (blank : Bool) (cs : List Char) : List Char × List Char :=
  let inside (c : Char) : Bool := isSpace c == blank && c ≠ '<' && c ≠ '&' && c ≠ '\x00'
  (cs.takeWhile inside, cs.dropWhile inside)

/-- The text of a marked section, and what follows it. -/
def spanMarked : List Char → List Char × List Char
  | ']' :: ']' :: '>' :: rest => ([], rest)
  | c :: cs =>
    let (text, rest) := spanMarked cs
    (replaceNul c :: text, rest)
  | [] => ([], [])

/-- A text token. -/
def textOf (cs : List Char) : Token :=
  .text (cs.all isSpace) (.ofList cs)

/-! ### Tokens -/

/-- What a `<` starts when it starts a tag, a comment or a document type. -/
def scanMarkup (foreign : Bool) : List Char → Option Token × List Char
  | '!' :: '-' :: '-' :: cs => (some .comment, skipComment .opened cs)
  | '!' :: cs =>
    match afterWord? "doctype".toList cs with
    | some rest =>
      let (d, rest) := readDoctype rest
      (some (.doctype d.isLegacy), rest)
    | none =>
      if foreign && "[CDATA[".toList.isPrefixOf cs then
        let (text, rest) := spanMarked (cs.drop 7)
        (if text.isEmpty then none else some (textOf text), rest)
      else (some .comment, skipPast cs)
  | '/' :: '>' :: cs => (none, cs)
  | '/' :: c :: cs =>
    if c.isAlpha then
      match readTag (c :: cs) with
      | some (tag, rest) => (some (.close tag.name), rest)
      | none => (none, [])
    else (some .comment, skipPast (c :: cs))
  | ['/'] => (some (textOf ['<', '/']), [])
  | '?' :: cs => (some .comment, skipPast cs)
  | c :: cs =>
    if c.isAlpha then
      match readTag (c :: cs) with
      | some (tag, rest) => (some (.start tag), rest)
      | none => (none, [])
    else (some (textOf ['<']), c :: cs)
  | [] => (some (textOf ['<']), [])

/-- A reference, or the ampersand itself. -/
def scanReference (cs : List Char) : Option Token × List Char :=
  match readReference false cs with
  | some (decoded, rest) => (some (textOf decoded), rest)
  | none => (some (textOf ['&']), cs)

/-- A token where everything counts as markup. -/
def scanData (foreign : Bool) : List Char → Option Token × List Char
  | [] => (some .eof, [])
  | '\x00' :: cs => (some .nul, cs)
  | '&' :: cs => scanReference cs
  | '<' :: cs => scanMarkup foreign cs
  | c :: cs =>
    let (text, rest) := spanText (isSpace c) (c :: cs)
    (some (.text (isSpace c) (.ofList text)), rest)

/-- A token where only the end tag of a name and perhaps references count as markup. -/
def scanEscapable (name : List Char) : List Char → Option Token × List Char
  | [] => (some .eof, [])
  | '&' :: cs => scanReference cs
  | c :: cs =>
    if closes name (c :: cs) then scanMarkup false cs
    else if c = '<' then (some (textOf ['<']), cs)
    else
      let inside (c : Char) : Bool := c ≠ '<' && c ≠ '&'
      (some (textOf (((c :: cs).takeWhile inside).map replaceNul)), (c :: cs).dropWhile inside)

/-- Text up to an end tag, or that end tag. -/
def scanSpan (span : List Char → List Char × List Char) (cs : List Char) :
    Option Token × List Char :=
  if cs.isEmpty then (some .eof, [])
  else
    let (text, rest) := span cs
    if text.isEmpty then scanMarkup false (cs.drop 1) else (some (textOf text), rest)

/-- The token at the front of a list, if it is one that matters, and what follows it.  In
`foreign` content a marked section holds text. -/
def scan (content : Content) (foreign : Bool) (cs : List Char) : Option Token × List Char :=
  match content with
  | .data => scanData foreign cs
  | .escapable name => scanEscapable name.toList cs
  | .raw name => scanSpan (spanRaw name.toList) cs
  | .script => scanSpan (spanScript .outside) cs
  | .plain => scanSpan (fun cs => (cs.map replaceNul, [])) cs

end StatementTables.Html
