import StatementTables.Html.Builder

/-! # Formatting elements

Elements such as `b` go on after the element that they were opened in is closed.  The list of
formatting elements keeps them, and `reconstruct` opens them again.  When an end tag closes one
across other elements, `closeFormatting` takes the tree apart and puts the formatting inside the
outermost block that was open in it. -/

namespace StatementTables.Html.Build

open Builder

/-- The formatting elements after the last mark, the latest in front. -/
def sinceMarker (entries : List Formatting) : List (Nat × Tag) :=
  match entries with
  | .element node tag :: rest => (node, tag) :: sinceMarker rest
  | _ => []

def pushMarker : Build Unit :=
  modify fun b => { b with formatting := .marker :: b.formatting }

/-- The entries before the last mark. -/
def beforeMarker : List Formatting → List Formatting
  | [] => []
  | .marker :: rest => rest
  | .element _ _ :: rest => beforeMarker rest

def clearToMarker : Build Unit :=
  modify fun b => { b with formatting := beforeMarker b.formatting }

def isEntryOf (node : Nat) : Formatting → Bool
  | .element n _ => n == node
  | .marker => false

def removeFormatting (node : Nat) : Build Unit :=
  modify fun b => { b with formatting := b.formatting.eraseP (isEntryOf node) }

/-- Whether two tags agree in name and attributes, these in any order. -/
def sameTag (a c : Tag) : Bool :=
  a.name == c.name && a.attributes.length == c.attributes.length &&
    a.attributes.all fun x => c.attributes.lookup x.1 == some x.2

/-- Whether an entry needs no new element: a mark, or an element that is open. -/
def isSettled (b : Builder) : Formatting → Bool
  | .marker => true
  | .element node _ => b.openElements.contains node

/-- Opens new elements for entries given from the earliest, and gives the entries that replace
them. -/
def reopen : List Formatting → Build (List Formatting)
  | [] => return []
  | .marker :: rest => return .marker :: (← reopen rest)
  | .element _ tag :: rest => do
    let node ← insertElement true .html tag.name tag.attributes
    return .element node tag :: (← reopen rest)

/-- Takes up again the formatting elements that were closed by the way. -/
def reconstruct : Build Unit := do
  let b ← get
  let closed := b.formatting.takeWhile fun e => !isSettled b e
  if closed.isEmpty then return
  let entries ← reopen closed.reverse
  modify fun b => { b with formatting := entries.reverse ++ b.formatting.drop closed.length }

/-- Opens a formatting element.  Of more than three alike the earliest is forgotten. -/
def insertFormatting (tag : Tag) : Build Unit := do
  let b ← get
  let alike := (sinceMarker b.formatting).filter fun e => sameTag tag e.2
  if 3 ≤ alike.length then
    match alike.getLast? with
    | some (node, _) => removeFormatting node
    | none => pure ()
  let node ← insertElement true .html tag.name tag.attributes
  modify fun b => { b with formatting := .element node tag :: b.formatting }

/-! ### Closing -/

/-- Elements that the search for the element of an end tag does not pass. -/
def specialElements : List String :=
  ["address", "applet", "area", "article", "aside", "base", "basefont", "bgsound", "blockquote",
   "body", "br", "button", "caption", "center", "col", "colgroup", "dd", "details", "dir", "div",
   "dl", "dt", "embed", "fieldset", "figcaption", "figure", "footer", "form", "frame", "frameset",
   "h1", "h2", "h3", "h4", "h5", "h6", "head", "header", "hgroup", "hr", "html", "iframe", "img",
   "input", "isindex", "li", "link", "listing", "main", "marquee", "menu", "meta", "nav",
   "noembed", "noframes", "noscript", "object", "ol", "p", "param", "plaintext", "pre", "script",
   "section", "select", "source", "style", "summary", "table", "tbody", "td", "template",
   "textarea", "tfoot", "th", "thead", "title", "tr", "track", "ul", "wbr", "xmp"]

/-- The open elements from the one that an end tag of a name closes on; none when a special
element is in the way. -/
def closable? (b : Builder) (name : String) : List Nat → Option (List Nat)
  | [] => none
  | node :: rest =>
    if b.isNamed name node then some (node :: rest)
    else if b.isOneOf specialElements node then none
    else closable? b name rest

/-- Closes the innermost element of a name, unless a special element is in the way. -/
def closeOrdinary (name : String) : Build Unit := do
  let b ← get
  match closable? b name b.openElements with
  | some (_ :: outer) => modify fun b => { b with openElements := outer }
  | _ => return

/-- The tag of a formatting element that is in the list. -/
def formattingTag? (b : Builder) (node : Nat) : Option Tag :=
  b.formatting.findSome? fun
    | .element n tag => if n = node then some tag else none
    | .marker => none

/-- Puts another element in the place of an open formatting element. -/
def replaceOpen (node fresh : Nat) (tag : Tag) : Build Unit :=
  modify fun b =>
    { b with
      openElements := b.openElements.map fun n => if n = node then fresh else n
      formatting := b.formatting.map fun e => if isEntryOf node e then .element fresh tag else e }

/-- Wraps what has been moved so far, `last`, in fresh copies of the formatting elements between
a block and the formatting element that is closed, at most three of them, given from the inside;
other elements between them are closed.  The result is the outermost wrapper, and the innermost
one after whose entry the new entry goes. -/
def wrap (block : Nat) : Nat → Nat → Option Nat → List Nat → Build (Nat × Option Nat)
  | _, last, mark, [] => return (last, mark)
  | limit, last, mark, node :: outer => do
    let b ← get
    match if limit = 0 then none else formattingTag? b node with
    | none =>
      removeFormatting node
      removeOpen node
      wrap block (limit - 1) last mark outer
    | some tag =>
      let fresh ← createElement tag.name .html tag.attributes
      replaceOpen node fresh tag
      append fresh last
      wrap block (limit - 1) fresh (if last = block then some fresh else mark) outer

/-- Puts the entry of a new formatting element in the place of the old one, or right after that
of a given element. -/
def enter (old : Nat) (after : Option Nat) (entry : Formatting) : Build Unit := do
  match after with
  | none =>
    modify fun b =>
      { b with formatting := b.formatting.map fun e => if isEntryOf old e then entry else e }
  | some node =>
    modify fun b =>
      { b with formatting := b.formatting.flatMap fun e =>
          if isEntryOf node e then [entry, e] else [e] }
    removeFormatting old

/-- Opens an element right inside another. -/
def pushInside (outer fresh : Nat) : Build Unit :=
  modify fun b =>
    { b with openElements := b.openElements.flatMap fun n =>
        if n = outer then [fresh, n] else [n] }

/-- Moves the formatting of an element into the outermost block inside it. -/
def splitAround (node : Nat) (tag : Tag) (block : Nat) (between : List Nat) (ancestor : Nat) :
    Build Unit := do
  let (last, mark) ← wrap block 3 block none between
  detach last
  insertAt (placeIn (← get) ancestor) last
  let fresh ← createElement tag.name .html tag.attributes
  moveChildren block fresh
  append block fresh
  enter node mark (.element fresh tag)
  removeOpen node
  pushInside block fresh

/-- Closes a formatting element, up to `rounds` times as long as blocks are open in it. -/
def closeFormattingRounds (name : String) : Nat → Build Unit
  | 0 => return
  | rounds + 1 => do
    let b ← get
    match (sinceMarker b.formatting).find? fun e => e.2.name == name with
    | none => closeOrdinary name
    | some (node, tag) =>
      if !b.openElements.contains node then removeFormatting node
      else if !b.inScopeWhere .default (· == node) then return
      else
        -- from the formatting element to the innermost one
        let inside := (b.openElements.takeWhile (· ≠ node)).reverse
        match inside.dropWhile fun n => !b.isOneOf specialElements n with
        | [] =>
          modify fun b =>
            { b with openElements := (b.openElements.dropWhile (· ≠ node)).drop 1 }
          removeFormatting node
        | block :: _ =>
          let between := (inside.takeWhile fun n => !b.isOneOf specialElements n).reverse
          let ancestor := (b.openElements.dropWhile (· ≠ node)).getD 1 b.rootElement
          splitAround node tag block between ancestor
          closeFormattingRounds name rounds

/-- Closes a formatting element. -/
def closeFormatting (name : String) : Build Unit := do
  let b ← get
  if b.currentIs name && (formattingTag? b b.current).isNone then pop
  else closeFormattingRounds name 8

/-- Closes a link that is still open when another one starts. -/
def closeEarlierLink : Build Unit := do
  match (sinceMarker (← get).formatting).find? fun e => e.2.name == "a" with
  | none => return
  | some (node, _) =>
    closeFormatting "a"
    removeFormatting node
    removeOpen node

end StatementTables.Html.Build
