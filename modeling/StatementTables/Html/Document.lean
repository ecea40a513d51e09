import StatementTables.Html.Modes

/-! # Reading pages

`Document.ofString` reads any text as a page: tokens are taken from the front of the text and
change the page under construction, and what comes out is turned into a tree. -/

namespace StatementTables.Html

namespace Build

/-- A token at the end of the rules' chain of modes: enough steps for any of them. -/
def enoughSteps (b : Builder) : Nat :=
  8 * (b.openElements.length + b.templateModes.length) + 32

/-- A text without the line feed that may follow the start tag of an element. -/
def withoutLineFeed? (content : String) : Option String :=
  match content.toList with
  | ['\n'] => none
  | '\n' :: cs => some (.ofList cs)
  | _ => some content

/-- Takes a token.  A document type counts in front of everything only. -/
def take (token : Token) : Build Unit := do
  let b ← get
  modify fun b => { b with dropLineFeed := false }
  match token with
  | .doctype _ => if b.mode = .initial then discard (initial token)
  | .text blank content =>
    match if b.dropLineFeed then withoutLineFeed? content else some content with
    | some content => advance (enoughSteps b) (.text blank content)
    | none => return
  | .close name =>
    if b.mode = .text then modify fun b => { b with content := .data }
    advance (enoughSteps b) (.close name)
  | token => advance (enoughSteps b) token

/-- Takes all tokens of a text; `fuel` is more than its length. -/
def takeAll : Nat → List Char → Build Unit
  | 0, _ => return
  | fuel + 1, cs => do
    let b ← get
    match scan b.content (b.vocabularyOf b.current ≠ .html) cs with
    | (some .eof, _) => take .eof
    | (some token, rest) =>
      take token
      takeAll fuel rest
    | (none, rest) => takeAll fuel rest

end Build

/-- The tree at a node; `fuel` is at least its depth. -/
def Builder.tree (b : Builder) : Nat → Nat → Node
  | 0, _ => .other
  | fuel + 1, node =>
    let children := (b.draft node).children.toList.map (b.tree fuel)
    match b.kindOf node with
    | .element name _ attributes => .element node name attributes children
    | .document | .fragment => .fragment children
    | .text content => .text content
    | .other => .other

/-- The page that has been built. -/
def Builder.document (b : Builder) : Document :=
  let isDetached (node : Nat) : Bool := node ≠ 0 && (b.draft node).parent.isNone
  { top := (b.draft 0).children.toList.map (b.tree b.nodes.size)
    detached := ((List.range b.nodes.size).filter isDetached).map (b.tree b.nodes.size) }

/-- The page that a text stands for. -/
def Document.ofString (source : String) : Document :=
  let cs := unifyLines source.toList
  let cs := match cs with
    | '\uFEFF' :: rest => rest
    | cs => cs
  ((Build.takeAll (cs.length + 1) cs).run .empty).2.document

end StatementTables.Html
