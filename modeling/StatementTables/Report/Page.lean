import StatementTables.Html.Document
import StatementTables.Table.Rendered

/-! # Rendered pages

`RenderedPage.ofHtml?` reads a page that shows one sheet: which one, its title and its table.
`Section.ofHtml` reads the page of a report with many headed sections, each with a table of its
own. -/

namespace StatementTables

open Html

/-- A page that shows one sheet. -/
structure RenderedPage where
  sheetCode : Int
  title : String
  tableCount : Nat
  table : Except SkipReason RenderedTable

namespace RenderedPage

/-- The choice of the sheet that is shown: the first that is properly marked, else the first that
is marked at all. -/
def selectedSheet? (root : Node) : Option Node :=
  let marked := root.selectWhere fun n => n.hasName "option" && (n.attribute? "selected").isSome
  (marked.find? fun n => n.attribute? "selected" == some "selected") <|> marked.head?

/-- A title on one line. -/
def titleOf (choice : Node) : String :=
  let cs := choice.content.toList
  .ofList (Text.trimChars (Text.without '\t' (Text.without '\n' cs)))

def ofHtml? (source : String) : Except SourceFault RenderedPage := do
  let root := (Document.ofString source).root
  match selectedSheet? root with
  | none => throw .noSelectedSheet
  | some choice =>
    let value := (choice.attribute? "value").getD ""
    match Decimal.readInt64? (Text.trimChars value.toList) with
    | none => throw (.sheetNotNumeric value)
    | some sheetCode =>
      let tables := shownTables root
      return ⟨sheetCode, titleOf choice, tables.length, RenderedTable.flat? tables⟩

end RenderedPage

/-- What a section holds. -/
inductive SectionContent where
  | table (table : RenderedTable)
  | skipped (reason : SkipReason)
  | empty

/-- A headed section of a page. -/
structure Section where
  title : String
  content : Except SourceFault SectionContent

namespace Section

/-- The title in a heading: its first text. -/
def titleOf (heading : Node) : String :=
  .ofList (Text.trimChars (Text.without '\n' (heading.texts.headD "").toList))

def ofRendered : Except SkipReason RenderedTable → SectionContent
  | .ok table => .table table
  | .error reason => .skipped reason

/-- What the node around a section holds.  A table of the class of stacked headers, shown or not,
makes the header of the first table a stacked one. -/
def contentOf (rules : Rules) (container : Node) : SectionContent :=
  let tables := shownTables container
  match tables with
  | [] => .empty
  | first :: _ =>
    if (container.select "table").any (Node.hasClass [rules.stackedHeaderClass]) then
      if tables.any hasHeaderCells then ofRendered (RenderedTable.stacked? first)
      else .skipped .noHeader
    else ofRendered (RenderedTable.flat? tables)

def ofHeading (rules : Rules) (heading : Placed) : Section where
  title := titleOf heading.node
  content :=
    match heading.grandparent.filter Node.isElement with
    | some container => .ok (contentOf rules container)
    | none => .error .headingOutside

/-- The sections of a page. -/
def ofHtml (rules : Rules) (source : String) : List Section :=
  ((Document.ofString source).select "h3").map (ofHeading rules)

end Section

end StatementTables
