import StatementTables.Html.Node
import StatementTables.Html.Token

/-! # Building the tree of a page

A page under construction is an array of nodes that know their parent and children, together with
what the rules for tokens need: the elements that are open, the formatting elements to be taken up
again, and the insertion mode.  This module has the operations on it; which token calls for which
of them is in the module of the rules. -/

namespace StatementTables.Html

/-- The vocabulary that an element belongs to. -/
inductive Vocabulary where
  | html
  | svg
  | mathml
  deriving DecidableEq, Repr

inductive NodeKind where
  | document
  | fragment
  | element (name : String) (vocabulary : Vocabulary) (attributes : List (String × String))
  | text (content : String)
  | other

instance : Inhabited NodeKind := ⟨.other⟩

/-- A node under construction. -/
structure Draft where
  kind : NodeKind
  parent : Option Nat
  children : Array Nat

instance : Inhabited Draft := ⟨⟨.other, none, #[]⟩⟩

/-- Where in a page the next token is. -/
inductive Mode where
  | initial
  | beforeHtml
  | beforeHead
  | inHead
  | afterHead
  | inBody
  | text
  | inTable
  | inTableText
  | inCaption
  | inColumnGroup
  | inTableBody
  | inRow
  | inCell
  | inSelect
  | inSelectInTable
  | inTemplate
  | afterBody
  | inFrameset
  | afterFrameset
  | afterAfterBody
  | afterAfterFrameset
  deriving DecidableEq, Repr

/-- A formatting element with the tag it came from, or a mark that keeps earlier ones apart. -/
inductive Formatting where
  | marker
  | element (node : Nat) (tag : Tag)

/-- A page under construction.  The lists of open elements and of formatting elements have the
latest in front. -/
structure Builder where
  nodes : Array Draft
  mode : Mode
  originalMode : Mode
  templateModes : List Mode
  openElements : List Nat
  formatting : List Formatting
  headElement : Option Nat
  formElement : Option Nat
  framesetOk : Bool
  legacy : Bool
  dropLineFeed : Bool
  fostering : Bool
  pendingText : List (Bool × String)
  content : Content

namespace Builder

/-- An empty page; its document is node 0. -/
def empty : Builder where
  nodes := #[⟨.document, none, #[]⟩]
  mode := .initial
  originalMode := .initial
  templateModes := []
  openElements := []
  formatting := []
  headElement := none
  formElement := none
  framesetOk := true
  legacy := false
  dropLineFeed := false
  fostering := false
  pendingText := []
  content := .data

/-! ### Looking at nodes -/

variable (b : Builder)

def draft (node : Nat) : Draft := b.nodes.getD node default

def kindOf (node : Nat) : NodeKind := (b.draft node).kind

/-- The name of an element; empty for other nodes. -/
def nameOf (node : Nat) : String :=
  match b.kindOf node with
  | .element name _ _ => name
  | _ => ""

def vocabularyOf (node : Nat) : Vocabulary :=
  match b.kindOf node with
  | .element _ vocabulary _ => vocabulary
  | _ => .html

/-- Whether a node is an element of the page language with one of some names. -/
def isOneOf (names : List String) (node : Nat) : Bool :=
  match b.kindOf node with
  | .element name .html _ => names.contains name
  | _ => false

def isNamed (name : String) (node : Nat) : Bool := b.isOneOf [name] node

/-- The innermost open element. -/
def current : Nat := b.openElements.headD 0

def currentIsOneOf (names : List String) : Bool := b.isOneOf names b.current

def currentIs (name : String) : Bool := b.isNamed name b.current

def hasOpen (name : String) : Bool := b.openElements.any (b.isNamed name)

/-- The outermost open element. -/
def rootElement : Nat := b.openElements.getLastD 0

/-- The second open element when it is the body. -/
def bodyElement? : Option Nat :=
  match b.openElements.reverse with
  | _ :: node :: _ => if b.isNamed "body" node then some node else none
  | _ => none

/-- The node that holds the content of a template. -/
def templateContent (node : Nat) : Nat := ((b.draft node).children[0]?).getD node

/-! ### Scopes -/

/-- The elements that end the search for an open element. -/
structure Scope where
  names : List String
  /-- Whether also the places of other vocabularies where the page language goes on end it. -/
  foreign : Bool
  /-- Whether the names are those that do not end it. -/
  inverted : Bool

def Scope.default : Scope :=
  ⟨["applet", "caption", "html", "table", "td", "th", "marquee", "object", "template"], true, false⟩

def Scope.list : Scope := { Scope.default with names := "ol" :: "ul" :: Scope.default.names }

def Scope.button : Scope := { Scope.default with names := "button" :: Scope.default.names }

def Scope.table : Scope := ⟨["html", "table", "template"], false, false⟩

def Scope.select : Scope := ⟨["optgroup", "option"], false, true⟩

/-- Places of other vocabularies where text and tags are read as in the page language. -/
def isMathText (node : Nat) : Bool :=
  match b.kindOf node with
  | .element name .mathml _ => ["mi", "mo", "mn", "ms", "mtext"].contains name
  | _ => false

def isSvgContainer (node : Nat) : Bool :=
  match b.kindOf node with
  | .element name .svg _ => ["foreignobject", "desc", "title"].contains name
  | _ => false

def isAnnotation (node : Nat) : Bool :=
  match b.kindOf node with
  | .element name .mathml _ => name == "annotation-xml"
  | _ => false

def Scope.endsAt (scope : Scope) (node : Nat) : Bool :=
  if scope.inverted then !b.isOneOf scope.names node
  else b.isOneOf scope.names node ||
    (scope.foreign && (b.isMathText node || b.isSvgContainer node))

/-- Whether an open element for which a condition holds is reached before the scope ends. -/
def inScopeWhere (scope : Scope) (condition : Nat → Bool) : Bool :=
  search b.openElements
where
  search : List Nat → Bool
    | [] => false
    | node :: rest => condition node || (!scope.endsAt b node && search rest)

def inScope (scope : Scope) (name : String) : Bool :=
  b.inScopeWhere scope (b.isNamed name)

end Builder

/-! ### Changing the page -/

/-- Steps that change a page under construction. -/
abbrev Build := StateM Builder

namespace Build

open Builder

def setMode (mode : Mode) : Build Unit := modify fun b => { b with mode }

def noFrameset : Build Unit := modify fun b => { b with framesetOk := false }

def modifyNode (node : Nat) (f : Draft → Draft) : Build Unit :=
  modify fun b => { b with nodes := b.nodes.modify node f }

/-- A new node without a parent. -/
def create (kind : NodeKind) : Build Nat := do
  let b ← get
  let node := b.nodes.size
  set { b with nodes := b.nodes.push ⟨kind, none, #[]⟩ }
  return node

/-- Takes a node out of its parent. -/
def detach (node : Nat) : Build Unit := do
  let b ← get
  match (b.draft node).parent with
  | none => return
  | some parent =>
    modifyNode parent fun d => { d with children := d.children.filter (· ≠ node) }
    modifyNode node fun d => { d with parent := none }

/-- Makes a node the last child of another. -/
def append (parent node : Nat) : Build Unit := do
  detach node
  modifyNode parent fun d => { d with children := d.children.push node }
  modifyNode node fun d => { d with parent := some parent }

/-- Puts a node right before another that has a parent. -/
def insertBefore (sibling node : Nat) : Build Unit := do
  detach node
  let b ← get
  match (b.draft sibling).parent with
  | none => return
  | some parent =>
    let cs := (b.draft parent).children
    let at_ := (cs.findIdx? (· == sibling)).getD cs.size
    modifyNode parent fun d =>
      { d with children := cs.extract 0 at_ ++ #[node] ++ cs.extract at_ cs.size }
    modifyNode node fun d => { d with parent := some parent }

/-- Adds to a text node, if the node is one. -/
def extendText? (node : Nat) (content : String) : Build Bool := do
  let b ← get
  match b.kindOf node with
  | .text before =>
    modifyNode node fun d => { d with kind := .text (before ++ content) }
    return true
  | _ => return false

/-- Text as the last child of a node, joined to a text that is there. -/
def appendText (parent : Nat) (content : String) : Build Unit := do
  let b ← get
  let joined ← match (b.draft parent).children.back? with
    | some last => extendText? last content
    | none => pure false
  if !joined then append parent (← create (.text content))

/-- Text right before a node, joined to a text that is there. -/
def insertTextBefore (sibling : Nat) (content : String) : Build Unit := do
  let b ← get
  match (b.draft sibling).parent with
  | none => return
  | some parent =>
    let cs := (b.draft parent).children
    let at_ := (cs.findIdx? (· == sibling)).getD 0
    let joined ←
      if at_ = 0 then pure false else extendText? (cs.getD (at_ - 1) 0) content
    if !joined then insertBefore sibling (← create (.text content))

/-- Moves all children of a node to the end of another's. -/
def moveChildren (source target : Nat) : Build Unit := do
  for child in (← get).draft source |>.children do
    append target child

/-- Adds the attributes that an element does not have yet. -/
def addAttributes (node : Nat) (attributes : List (String × String)) : Build Unit :=
  modifyNode node fun d =>
    match d.kind with
    | .element name vocabulary own =>
      let missing := attributes.filter fun a => (own.lookup a.1).isNone
      { d with kind := .element name vocabulary (own ++ missing) }
    | _ => d

/-! ### Places for new nodes -/

/-- Where a new node goes. -/
inductive Place where
  | lastIn (parent : Nat)
  /-- Before a table, or at the end of the element around it when the table is in no node. -/
  | beforeTable (table outer : Nat)

/-- The elements of a table that hold no text or other content of their own. -/
def tableParts : List String := ["table", "tbody", "tfoot", "thead", "tr"]

/-- The place before the innermost table, from a list of open elements. -/
def fosterPlace (b : Builder) : List Nat → Place
  | [] => .lastIn b.rootElement
  | node :: rest =>
    if b.isNamed "template" node then .lastIn (b.templateContent node)
    else if b.isNamed "table" node then .beforeTable node (rest.headD b.rootElement)
    else fosterPlace b rest

/-- The place for a new node below `target`. -/
def placeIn (b : Builder) (target : Nat) : Place :=
  if b.fostering && b.isOneOf tableParts target then fosterPlace b b.openElements
  else if b.isNamed "template" target then .lastIn (b.templateContent target)
  else .lastIn target

def insertAt (place : Place) (node : Nat) : Build Unit := do
  match place with
  | .lastIn parent => append parent node
  | .beforeTable table outer =>
    if ((← get).draft table).parent.isSome then insertBefore table node else append outer node

/-- Text at the current place. -/
def insertText (content : String) : Build Unit := do
  let b ← get
  match placeIn b b.current with
  | .lastIn parent => appendText parent content
  | .beforeTable table outer =>
    if (b.draft table).parent.isSome then insertTextBefore table content
    else appendText outer content

/-- A comment at the current place. -/
def insertComment : Build Unit := do
  let node ← create .other
  let b ← get
  insertAt (placeIn b b.current) node

/-- A comment in a given node. -/
def insertCommentIn (parent : Nat) : Build Unit := do
  append parent (← create .other)

/-! ### Open elements -/

def push (node : Nat) : Build Unit :=
  modify fun b => { b with openElements := node :: b.openElements }

def pop : Build Unit :=
  modify fun b => { b with openElements := b.openElements.drop 1 }

/-- A new element, with the node for the content of a template. -/
def createElement (name : String) (vocabulary : Vocabulary) (attributes : List (String × String)) :
    Build Nat := do
  let node ← create (.element name vocabulary attributes)
  if vocabulary = .html ∧ name = "template" then append node (← create .fragment)
  return node

/-- A new element at the current place, open or not. -/
def insertElement (isOpen : Bool) (vocabulary : Vocabulary) (name : String)
    (attributes : List (String × String)) : Build Nat := do
  let node ← createElement name vocabulary attributes
  let b ← get
  insertAt (placeIn b b.current) node
  if isOpen then push node
  return node

/-- An open element for a tag. -/
def insertFor (tag : Tag) : Build Unit :=
  discard (insertElement true .html tag.name tag.attributes)

/-- An element for a tag that has no content. -/
def insertClosed (tag : Tag) : Build Unit :=
  discard (insertElement false .html tag.name tag.attributes)

/-- An open element for a tag that was left out. -/
def insertImplied (name : String) : Build Nat :=
  insertElement true .html name []

/-- Closes elements up to and including one for which a condition holds. -/
def popThrough (condition : Builder → Nat → Bool) : Build Unit :=
  modify fun b =>
    { b with openElements := (b.openElements.dropWhile fun node => !condition b node).drop 1 }

def popThroughNamed (name : String) : Build Unit :=
  popThrough fun b => b.isNamed name

/-- Closes elements up to one of some names. -/
def popUntil (names : List String) : Build Unit :=
  modify fun b =>
    { b with openElements := b.openElements.dropWhile fun node => !b.isOneOf names node }

def removeOpen (node : Nat) : Build Unit :=
  modify fun b => { b with openElements := b.openElements.erase node }

/-- Elements whose end tag may be left out. -/
def impliedEnds : List String :=
  ["dd", "dt", "li", "option", "optgroup", "p", "rb", "rp", "rt", "rtc"]

/-- Those and the parts of tables. -/
def allImpliedEnds : List String :=
  impliedEnds ++ ["caption", "colgroup", "tbody", "td", "tfoot", "th", "thead", "tr"]

/-- Closes elements of some names as long as the current one is of them. -/
def closeImplied (names : List String) : Build Unit :=
  modify fun b =>
    { b with openElements := b.openElements.dropWhile fun node => b.isOneOf names node }

def closeImpliedExcept (name : String) : Build Unit :=
  closeImplied (impliedEnds.filter (· ≠ name))

/-- Closes a paragraph. -/
def closeParagraph : Build Unit := do
  closeImpliedExcept "p"
  popThroughNamed "p"

/-- Closes a paragraph that the next element cannot be in. -/
def closeParagraphInScope : Build Unit := do
  if (← get).inScope .button "p" then closeParagraph

end Build

end StatementTables.Html
