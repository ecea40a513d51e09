import StatementTables.Text.Words

/-! # Pages as trees

A page is a tree of nodes.  An element has a name, attributes and children, and a `serial` that
counts the nodes of a page in the order in which they came up; foreign to what a page shows are
comments (`other`), and a `fragment` holds the content of a template.  `select` finds the elements
of a name below a node, `texts` the texts. -/

namespace StatementTables.Html

inductive Node where
  | element (serial : Nat) (name : String) (attributes : List (String × String))
      (children : List Node)
  | fragment (children : List Node)
  | text (content : String)
  | other

instance : Inhabited Node := ⟨.other⟩

namespace Node

def children : Node → List Node
  | element _ _ _ children => children
  | fragment children => children
  | _ => []

def serial : Node → Nat
  | element serial _ _ _ => serial
  | _ => 0

def isElement : Node → Bool
  | element _ _ _ _ => true
  | _ => false

/-- Whether the node is an element of a name. -/
def hasName (name : String) : Node → Bool
  | element _ n _ _ => n == name
  | _ => false

/-- The value of an attribute. -/
def attribute? (name : String) : Node → Option String
  | element _ _ attributes _ => attributes.lookup name
  | _ => none

/-- The classes of an element. -/
def classes (node : Node) : List String :=
  (Text.words ((node.attribute? "class").getD "").toList).map .ofList

/-- Whether an element has one of some classes. -/
def hasClass (names : List String) (node : Node) : Bool :=
  node.classes.any names.contains

/-! ### Below a node -/

mutual

/-- A node and everything below it, each node before its children. -/
def subtree : Node → List Node
  | .element serial name attributes children =>
    .element serial name attributes children :: forest children
  | .fragment children => .fragment children :: forest children
  | .text content => [.text content]
  | .other => [.other]

def forest : List Node → List Node
  | [] => []
  | node :: nodes => node.subtree ++ forest nodes

end

/-- Everything below a node. -/
def descendants (node : Node) : List Node :=
  forest node.children

/-- The elements below a node for which a condition holds. -/
def selectWhere (condition : Node → Bool) (node : Node) : List Node :=
  node.descendants.filter fun n => n.isElement && condition n

/-- The elements of a name below a node. -/
def select (name : String) (node : Node) : List Node :=
  node.descendants.filter (hasName name)

def text? : Node → Option String
  | text content => some content
  | _ => none

/-- The texts below a node. -/
def texts (node : Node) : List String :=
  node.descendants.filterMap text?

/-- All text below a node. -/
def content (node : Node) : String :=
  String.join node.texts

end Node

/-! ### Elements and what they are in -/

/-- An element with the two nodes around it. -/
structure Placed where
  node : Node
  parent : Option Node
  grandparent : Option Node

mutual

/-- The elements of a tree with what they are in, each before those below it. -/
def Node.placed (parent grandparent : Option Node) : Node → List Placed
  | .element serial name attributes children =>
    ⟨.element serial name attributes children, parent, grandparent⟩ ::
      placedForest (some (.element serial name attributes children)) parent children
  | .fragment children => placedForest (some (.fragment children)) parent children
  | .text _ => []
  | .other => []

def placedForest (parent grandparent : Option Node) : List Node → List Placed
  | [] => []
  | node :: nodes =>
    node.placed parent grandparent ++ placedForest parent grandparent nodes

end

/-- A whole page: its top-level nodes, and trees that were taken out of it while it was read. -/
structure Document where
  top : List Node
  detached : List Node

namespace Document

/-- The element that everything shown is in. -/
def root (d : Document) : Node :=
  (d.top.find? Node.isElement).getD .other

/-- The elements of a name that have a parent, in the order in which they came up. -/
def select (d : Document) (name : String) : List Placed :=
  let all := placedForest (some (.fragment d.top)) none d.top ++
    d.detached.flatMap fun node => placedForest (some node) none node.children
  (all.filter fun p => p.node.hasName name).mergeSort fun a b => a.node.serial ≤ b.node.serial

end Document

end StatementTables.Html
