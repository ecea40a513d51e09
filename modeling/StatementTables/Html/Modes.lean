import StatementTables.Html.Formatting

/-! # The rules for tokens

What a token does to a page under construction depends on the insertion mode.  There is one
function for each mode; some hand tokens on to those before them.  A rule may ask for the token to
be taken again, after it has changed the mode.  `step` chooses the function, `advance` takes a
token as often as is asked for. -/

namespace StatementTables.Html.Build

open Builder

/-- Whether a token is done with. -/
inductive Outcome where
  | done
  | again

/-- A token that needs nothing more. -/
def finish (steps : Build Unit) : Build Outcome := do
  steps
  return .done

/-- The token is taken again in another mode. -/
def retry (mode : Mode) : Build Outcome := do
  setMode mode
  return .again

def ignore : Build Outcome := return .done

/-! ### Before the body -/

/-- The root element. -/
def insertRoot (attributes : List (String × String)) : Build Unit := do
  let node ← createElement "html" .html attributes
  push node
  append 0 node
  setMode .beforeHead

/-- A tag of the root that comes late adds its attributes. -/
def repeatRoot (tag : Tag) : Build Outcome := finish do
  let b ← get
  if !b.hasOpen "template" then addAttributes b.rootElement tag.attributes

def initial : Token → Build Outcome
  | .doctype legacy => finish do
    append 0 (← create .other)
    modify fun b => { b with legacy := legacy, mode := .beforeHtml }
  | .text true _ => ignore
  | .comment => finish (insertCommentIn 0)
  | _ => do
    modify fun b => { b with legacy := true }
    retry .beforeHtml

/-- End tags that stand for what was left out. -/
def impliesStart (name : String) : Bool := ["body", "html", "br"].contains name

def beforeHtml : Token → Build Outcome
  | .text true _ => ignore
  | .comment => finish (insertCommentIn 0)
  | .start tag =>
    if tag.name = "html" then finish (insertRoot tag.attributes)
    else do
      insertRoot []
      retry .beforeHead
  | .close name =>
    if name = "head" ∨ impliesStart name then do
      insertRoot []
      retry .beforeHead
    else ignore
  | _ => do
    insertRoot []
    retry .beforeHead

/-- The head with a tag or without. -/
def insertHead (attributes : List (String × String)) : Build Unit := do
  let node ← insertElement true .html "head" attributes
  modify fun b => { b with headElement := some node, mode := .inHead }

def impliedHead : Build Outcome := do
  insertHead []
  retry .inHead

def beforeHead : Token → Build Outcome
  | .text true _ => ignore
  | .comment => finish insertComment
  | .start tag =>
    if tag.name = "html" then repeatRoot tag
    else if tag.name = "head" then finish (insertHead tag.attributes)
    else impliedHead
  | .close name => if name = "head" ∨ impliesStart name then impliedHead else ignore
  | _ => impliedHead

/-- Elements of the head without content. -/
def metadataMarks : List String := ["base", "basefont", "bgsound", "link", "meta"]

/-- Elements that are taken as in the head wherever they come up. -/
def metadata : List String :=
  metadataMarks ++ ["noframes", "script", "style", "template", "title"]

/-- The content of an element is text up to its end tag. -/
def insertTextElement (tag : Tag) (content : Content) : Build Unit := do
  insertFor tag
  modify fun b => { b with originalMode := b.mode, mode := .text, content }

def insertTemplate (tag : Tag) : Build Unit := do
  insertFor tag
  pushMarker
  modify fun b =>
    { b with framesetOk := false, mode := .inTemplate,
             templateModes := .inTemplate :: b.templateModes }

/-- The mode that the open elements call for. -/
def modeFor (b : Builder) : List Nat → Mode
  | [] => .inBody
  | node :: outer =>
    if b.isNamed "select" node then
      match outer.find? (b.isOneOf ["template", "table"]) with
      | some around => if b.isNamed "table" around then .inSelectInTable else .inSelect
      | none => .inSelect
    else if b.isOneOf ["td", "th"] node && !outer.isEmpty then .inCell
    else if b.isNamed "tr" node then .inRow
    else if b.isOneOf ["tbody", "thead", "tfoot"] node then .inTableBody
    else if b.isNamed "caption" node then .inCaption
    else if b.isNamed "colgroup" node then .inColumnGroup
    else if b.isNamed "table" node then .inTable
    else if b.isNamed "template" node then b.templateModes.headD .inBody
    else if b.isNamed "head" node && !outer.isEmpty then .inHead
    else if b.isNamed "body" node then .inBody
    else if b.isNamed "frameset" node then .inFrameset
    else if b.isNamed "html" node then
      if b.headElement.isNone then .beforeHead else .afterHead
    else modeFor b outer

def resetMode : Build Unit :=
  modify fun b => { b with mode := modeFor b b.openElements }

/-- Leaves the innermost template. -/
def leaveTemplate : Build Unit := do
  popThroughNamed "template"
  clearToMarker
  modify fun b => { b with templateModes := b.templateModes.drop 1 }
  resetMode

def closeTemplate : Build Outcome := finish do
  if (← get).hasOpen "template" then
    closeImplied allImpliedEnds
    leaveTemplate

/-- The start tag of an element of the head. -/
def startMetadata (tag : Tag) : Build Outcome := finish do
  if metadataMarks.contains tag.name then insertClosed tag
  else if tag.name = "title" then insertTextElement tag (.escapable tag.name)
  else if tag.name = "script" then insertTextElement tag .script
  else if tag.name = "template" then insertTemplate tag
  else insertTextElement tag (.raw tag.name)

def leaveHead : Build Outcome := do
  pop
  retry .afterHead

def inHead : Token → Build Outcome
  | .text true content => finish (insertText content)
  | .comment => finish insertComment
  | .start tag =>
    if tag.name = "html" then repeatRoot tag
    else if metadata.contains tag.name ∨ tag.name = "noscript" then startMetadata tag
    else if tag.name = "head" then ignore
    else leaveHead
  | .close name =>
    if name = "head" then finish (do pop; setMode .afterHead)
    else if name = "template" then closeTemplate
    else if impliesStart name then leaveHead
    else ignore
  | _ => leaveHead

def impliedBody : Build Outcome := do
  discard (insertImplied "body")
  retry .inBody

/-- An element of the head that comes after it still goes into it. -/
def startLateMetadata (tag : Tag) : Build Outcome := do
  match (← get).headElement with
  | none => startMetadata tag
  | some head =>
    push head
    let outcome ← startMetadata tag
    removeOpen head
    return outcome

def afterHead : Token → Build Outcome
  | .text true content => finish (insertText content)
  | .comment => finish insertComment
  | .start tag =>
    if tag.name = "html" then repeatRoot tag
    else if tag.name = "body" then finish do
      insertFor tag
      noFrameset
      setMode .inBody
    else if tag.name = "frameset" then finish do
      insertFor tag
      setMode .inFrameset
    else if metadata.contains tag.name then startLateMetadata tag
    else if tag.name = "head" then ignore
    else impliedBody
  | .close name =>
    if name = "template" then closeTemplate
    else if impliesStart name then impliedBody
    else ignore
  | _ => impliedBody

/-! ### In the body -/

/-- The end of a page inside a template closes the template first. -/
def endInTemplate : Build Outcome := do
  if (← get).hasOpen "template" then
    leaveTemplate
    return .again
  else return .done

/-- The end of a page. -/
def endOfPage : Build Outcome := do
  if (← get).templateModes.isEmpty then return .done else endInTemplate

/-- Elements that cannot be in a paragraph and are not closed by themselves. -/
def blocks : List String :=
  ["address", "article", "aside", "blockquote", "center", "details", "dialog", "dir", "div", "dl",
   "fieldset", "figcaption", "figure", "footer", "header", "hgroup", "main", "menu", "nav", "ol",
   "search", "section", "summary", "ul"]

def headings : List String := ["h1", "h2", "h3", "h4", "h5", "h6"]

/-- Elements whose start tag can be repeated around other elements. -/
def formattingNames : List String :=
  ["b", "big", "code", "em", "font", "i", "s", "small", "strike", "strong", "tt", "u"]

/-- Elements that hold a page or a program of their own. -/
def embedded : List String := ["applet", "marquee", "object"]

def emptyElements : List String :=
  ["area", "br", "embed", "img", "keygen", "wbr", "input"]

/-- Parts of tables and of pages whose start tag means nothing in the body. -/
def misplaced : List String :=
  ["caption", "col", "colgroup", "frame", "head", "tbody", "td", "tfoot", "th", "thead", "tr"]

def isHiddenInput (tag : Tag) : Bool :=
  (tag.attributes.lookup "type").any fun kind => lower kind.toList == "hidden".toList

/-- The names of items that a new item closes. -/
def itemsClosedBy (name : String) : List String :=
  if name = "li" then ["li"] else ["dd", "dt"]

/-- The open item that a new one closes; none when another special element is in the way. -/
def openItem? (b : Builder) (names : List String) : List Nat → Option String
  | [] => none
  | node :: outer =>
    if b.isOneOf names node then some (b.nameOf node)
    else if b.isOneOf specialElements node && !b.isOneOf ["address", "div", "p"] node then none
    else openItem? b names outer

def startItem (tag : Tag) : Build Unit := do
  noFrameset
  let b ← get
  match openItem? b (itemsClosedBy tag.name) b.openElements with
  | some name =>
    closeImpliedExcept name
    popThroughNamed name
  | none => pure ()
  closeParagraphInScope
  insertFor tag

def startForm (tag : Tag) : Build Unit := do
  let b ← get
  let inTemplate := b.hasOpen "template"
  if b.formElement.isSome && !inTemplate then return
  closeParagraphInScope
  let node ← insertElement true .html tag.name tag.attributes
  if !inTemplate then modify fun b => { b with formElement := some node }

def startFrameset (tag : Tag) : Build Unit := do
  let b ← get
  match if b.framesetOk then b.bodyElement? else none with
  | none => return
  | some body =>
    detach body
    modify fun b => { b with openElements := [b.rootElement] }
    insertFor tag
    setMode .inFrameset

/-- A select element; inside a table its end can be left out. -/
def startSelect (tag : Tag) : Build Unit := do
  reconstruct
  insertFor tag
  noFrameset
  modify fun b =>
    { b with mode :=
        if [.inTable, .inCaption, .inTableBody, .inRow, .inCell].contains b.mode then
          .inSelectInTable
        else .inSelect }

/-- An element of another vocabulary. -/
def startForeign (vocabulary : Vocabulary) (tag : Tag) : Build Unit :=
  discard (insertElement (!tag.selfClosing) vocabulary tag.name tag.attributes)

/-- The start tags that close a paragraph before them. -/
def startBlock (tag : Tag) : Build Unit := do
  closeParagraphInScope
  if headings.contains tag.name then
    if (← get).currentIsOneOf headings then pop
    insertFor tag
  else if tag.name = "pre" ∨ tag.name = "listing" then
    insertFor tag
    modify fun b => { b with dropLineFeed := true, framesetOk := false }
  else if tag.name = "plaintext" then
    insertFor tag
    modify fun b => { b with content := .plain }
  else if tag.name = "hr" then
    insertClosed tag
    noFrameset
  else if tag.name = "xmp" then
    reconstruct
    noFrameset
    insertTextElement tag (.raw tag.name)
  else insertFor tag

def blockStarts : List String :=
  blocks ++ headings ++ ["p", "pre", "listing", "plaintext", "hr", "xmp"]

/-- The start tags of elements that are part of a text. -/
def startInline (tag : Tag) : Build Unit := do
  if tag.name = "a" then
    closeEarlierLink
    reconstruct
    insertFormatting tag
  else if formattingNames.contains tag.name then
    reconstruct
    insertFormatting tag
  else if tag.name = "nobr" then
    reconstruct
    if (← get).inScope .default "nobr" then
      closeFormatting "nobr"
      reconstruct
    insertFormatting tag
  else if tag.name = "button" then
    if (← get).inScope .default "button" then
      closeImplied impliedEnds
      popThroughNamed "button"
    reconstruct
    insertFor tag
    noFrameset
  else if embedded.contains tag.name then
    reconstruct
    insertFor tag
    pushMarker
    noFrameset
  else if emptyElements.contains tag.name then
    reconstruct
    insertClosed tag
    if !isHiddenInput tag || tag.name ≠ "input" then noFrameset
  else if tag.name = "option" ∨ tag.name = "optgroup" then
    if (← get).currentIs "option" then pop
    reconstruct
    insertFor tag
  else
    reconstruct
    insertFor tag

def startInBody (received : Tag) : Build Outcome :=
  let tag := if received.name = "image" then { received with name := "img" } else received
  if tag.name = "html" then repeatRoot tag
  else if metadata.contains tag.name then startMetadata tag
  else if misplaced.contains tag.name then ignore
  else if blockStarts.contains tag.name then finish (startBlock tag)
  else finish do
    let b ← get
    if tag.name = "body" then
      match b.bodyElement? with
      | some body =>
        if !b.hasOpen "template" then
          noFrameset
          addAttributes body tag.attributes
      | none => pure ()
    else if tag.name = "frameset" then startFrameset tag
    else if tag.name = "form" then startForm tag
    else if ["li", "dd", "dt"].contains tag.name then startItem tag
    else if tag.name = "table" then
      if !b.legacy then closeParagraphInScope
      insertFor tag
      noFrameset
      setMode .inTable
    else if ["param", "source", "track"].contains tag.name then insertClosed tag
    else if tag.name = "textarea" then
      modify fun b => { b with dropLineFeed := true, framesetOk := false }
      insertTextElement tag (.escapable tag.name)
    else if tag.name = "iframe" then
      noFrameset
      insertTextElement tag (.raw tag.name)
    else if tag.name = "noembed" ∨ tag.name = "noscript" then
      insertTextElement tag (.raw tag.name)
    else if tag.name = "select" then startSelect tag
    else if tag.name = "rb" ∨ tag.name = "rtc" then
      if b.inScope .default "ruby" then closeImplied impliedEnds
      insertFor tag
    else if tag.name = "rp" ∨ tag.name = "rt" then
      if b.inScope .default "ruby" then closeImpliedExcept "rtc"
      insertFor tag
    else if tag.name = "math" then startForeign .mathml tag
    else if tag.name = "svg" then startForeign .svg tag
    else startInline tag

/-- The end tag of an element that is not closed by other end tags. -/
def closeBlock (name : String) : Build Unit := do
  if (← get).inScope .default name then
    closeImplied impliedEnds
    popThroughNamed name

def closeForm : Build Unit := do
  let b ← get
  if b.hasOpen "template" then closeBlock "form"
  else
    match b.formElement with
    | none => return
    | some node =>
      modify fun b => { b with formElement := none }
      if b.inScopeWhere .default (· == node) then
        closeImplied impliedEnds
        removeOpen node

def closeInBody (name : String) : Build Outcome := do
  let b ← get
  if name = "template" then closeTemplate
  else if name = "body" then finish do
    if b.inScope .default "body" then setMode .afterBody
  else if name = "html" then
    if b.inScope .default "body" then retry .afterBody else ignore
  else if name = "br" then finish (startInline ⟨"br", [], false⟩)
  else finish do
    if blocks.contains name || ["button", "listing", "pre"].contains name then closeBlock name
    else if name = "form" then closeForm
    else if name = "p" then
      if !b.inScope .button "p" then discard (insertImplied "p")
      closeParagraph
    else if ["li", "dd", "dt"].contains name then
      if b.inScope (if name = "li" then .list else .default) name then
        closeImpliedExcept name
        popThroughNamed name
    else if headings.contains name then
      if b.inScopeWhere .default (b.isOneOf headings) then
        closeImplied impliedEnds
        popThrough fun b => b.isOneOf headings
    else if formattingNames.contains name || name = "a" || name = "nobr" then
      closeFormatting name
    else if embedded.contains name then
      if b.inScope .default name then
        closeBlock name
        clearToMarker
    else closeOrdinary name

def inBody : Token → Build Outcome
  | .text blank content => finish do
    reconstruct
    if !blank then noFrameset
    insertText content
  | .comment => finish insertComment
  | .start tag => startInBody tag
  | .close name => closeInBody name
  | .eof => endOfPage
  | _ => ignore

/-- The content of an element that holds text only. -/
def text : Token → Build Outcome
  | .text _ content => finish (insertText content)
  | .close _ => finish do
    pop
    modify fun b => { b with mode := b.originalMode }
  | .eof => do
    pop
    retry (← get).originalMode
  | _ => ignore

/-! ### In tables -/

/-- A token in a table that has no place there goes before the table. -/
def foster (token : Token) : Build Outcome := do
  modify fun b => { b with fostering := true }
  let outcome ← inBody token
  modify fun b => { b with fostering := false }
  return outcome

/-- Text in a table is held back until it is known whether all of it is white space. -/
def holdBack (token : Token) : Build Outcome := do
  let b ← get
  if b.currentIsOneOf tableParts then
    modify fun b => { b with originalMode := b.mode }
    retry .inTableText
  else foster token

/-- End tags of parts of tables, and of pages. -/
def tableEnds : List String :=
  ["body", "caption", "col", "colgroup", "html", "tbody", "td", "tfoot", "th", "thead", "tr"]

def toTable : Build Unit := popUntil ["html", "table", "template"]
def toTableBody : Build Unit := popUntil ["tbody", "tfoot", "thead", "template", "html"]
def toRow : Build Unit := popUntil ["tr", "template", "html"]

def startInTable (tag : Tag) : Build Outcome := do
  let b ← get
  if tag.name = "caption" then finish do
    toTable
    pushMarker
    insertFor tag
    setMode .inCaption
  else if tag.name = "colgroup" then finish do
    toTable
    insertFor tag
    setMode .inColumnGroup
  else if tag.name = "col" then
    toTable
    discard (insertImplied "colgroup")
    retry .inColumnGroup
  else if ["tbody", "tfoot", "thead"].contains tag.name then finish do
    toTable
    insertFor tag
    setMode .inTableBody
  else if ["td", "th", "tr"].contains tag.name then
    toTable
    discard (insertImplied "tbody")
    retry .inTableBody
  else if tag.name = "table" then
    if b.inScope .table "table" then
      popThroughNamed "table"
      resetMode
      return .again
    else ignore
  else if ["style", "script", "template"].contains tag.name then startMetadata tag
  else if tag.name = "input" ∧ isHiddenInput tag then finish (insertClosed tag)
  else if tag.name = "form" then finish do
    if !b.hasOpen "template" && b.formElement.isNone then
      let node ← insertElement false .html tag.name tag.attributes
      modify fun b => { b with formElement := some node }
  else foster (.start tag)

def closeInTable (name : String) : Build Outcome := do
  if name = "table" then finish do
    if (← get).inScope .table "table" then
      popThroughNamed "table"
      resetMode
  else if tableEnds.contains name then ignore
  else if name = "template" then closeTemplate
  else foster (.close name)

def inTable : Token → Build Outcome
  | .nul => holdBack .nul
  | .text blank content => holdBack (.text blank content)
  | .comment => finish insertComment
  | .start tag => startInTable tag
  | .close name => closeInTable name
  | .eof => endOfPage
  | token => foster token

/-- Places the text that was held back. -/
def releaseText : Build Unit := do
  let pending := (← get).pendingText.reverse
  modify fun b => { b with pendingText := [] }
  if pending.all (·.1) then
    for (_, content) in pending do
      insertText content
  else
    for (blank, content) in pending do
      discard (foster (.text blank content))

def inTableText : Token → Build Outcome
  | .nul => ignore
  | .text blank content =>
    finish (modify fun b => { b with pendingText := (blank, content) :: b.pendingText })
  | _ => do
    releaseText
    retry (← get).originalMode

/-- Closes the caption; whether there was one. -/
def closeCaption : Build Bool := do
  if (← get).inScope .table "caption" then
    closeImplied impliedEnds
    popThroughNamed "caption"
    clearToMarker
    setMode .inTable
    return true
  else return false

/-- Start tags of parts of tables. -/
def tableStarts : List String :=
  ["caption", "col", "colgroup", "tbody", "td", "tfoot", "th", "thead", "tr"]

def inCaption : Token → Build Outcome
  | .start tag => do
    if tableStarts.contains tag.name then
      if ← closeCaption then return .again else ignore
    else startInBody tag
  | .close name => do
    if name = "caption" then finish (discard closeCaption)
    else if name = "table" then
      if ← closeCaption then return .again else ignore
    else if tableEnds.contains name then ignore
    else closeInBody name
  | token => inBody token

def leaveColumnGroup : Build Outcome := do
  if (← get).currentIs "colgroup" then
    pop
    retry .inTable
  else ignore

def inColumnGroup : Token → Build Outcome
  | .text true content => finish (insertText content)
  | .comment => finish insertComment
  | .start tag =>
    if tag.name = "html" then repeatRoot tag
    else if tag.name = "col" then finish (insertClosed tag)
    else if tag.name = "template" then startMetadata tag
    else leaveColumnGroup
  | .close name => do
    if name = "colgroup" then
      discard leaveColumnGroup
      return .done
    else if name = "col" then ignore
    else if name = "template" then closeTemplate
    else leaveColumnGroup
  | .eof => endOfPage
  | _ => leaveColumnGroup

/-- Leaves a group of rows for a tag of the table. -/
def leaveTableBody : Build Outcome := do
  let b ← get
  if b.inScopeWhere .table (b.isOneOf ["table", "tbody", "tfoot"]) then
    toTableBody
    pop
    retry .inTable
  else ignore

def inTableBody : Token → Build Outcome
  | .start tag => do
    if tag.name = "tr" then finish do
      toTableBody
      insertFor tag
      setMode .inRow
    else if tag.name = "th" ∨ tag.name = "td" then
      toTableBody
      discard (insertImplied "tr")
      retry .inRow
    else if tableStarts.contains tag.name then leaveTableBody
    else startInTable tag
  | .close name => do
    if ["tbody", "tfoot", "thead"].contains name then finish do
      if (← get).inScope .table name then
        toTableBody
        pop
        setMode .inTable
    else if name = "table" then leaveTableBody
    else closeInTable name
  | token => inTable token

/-- Closes the row; whether there was one. -/
def closeRow : Build Bool := do
  if (← get).inScope .table "tr" then
    toRow
    pop
    setMode .inTableBody
    return true
  else return false

def leaveRow : Build Outcome := do
  if ← closeRow then return .again else ignore

def inRow : Token → Build Outcome
  | .start tag => do
    if tag.name = "th" ∨ tag.name = "td" then finish do
      toRow
      insertFor tag
      setMode .inCell
      pushMarker
    else if tableStarts.contains tag.name then leaveRow
    else startInTable tag
  | .close name => do
    if name = "tr" then finish (discard closeRow)
    else if name = "table" then leaveRow
    else if ["tbody", "tfoot", "thead"].contains name then
      if (← get).inScope .table name then leaveRow else ignore
    else closeInTable name
  | token => inTable token

/-- Leaves a cell. -/
def leaveCell : Build Outcome := do
  closeImplied impliedEnds
  popThrough fun b => b.isOneOf ["td", "th"]
  clearToMarker
  retry .inRow

def inCell : Token → Build Outcome
  | .start tag => do
    let b ← get
    if tableStarts.contains tag.name then
      if b.inScopeWhere .table (b.isOneOf ["td", "th"]) then leaveCell else ignore
    else startInBody tag
  | .close name => do
    let b ← get
    if name = "td" ∨ name = "th" then finish do
      if b.inScope .table name then
        closeImplied impliedEnds
        popThroughNamed name
        clearToMarker
        setMode .inRow
    else if ["table", "tbody", "tfoot", "thead", "tr"].contains name then
      if b.inScope .table name then leaveCell else ignore
    else if tableEnds.contains name then ignore
    else closeInBody name
  | token => inBody token

/-! ### In select elements -/

/-- Leaves a select element. -/
def closeSelect : Build Unit := do
  if (← get).inScope .select "select" then
    popThroughNamed "select"
    resetMode

/-- Closes the current element if it is an option. -/
def closeOption : Build Unit := do
  if (← get).currentIs "option" then pop

def closeOptionGroup : Build Unit := do
  if (← get).currentIs "optgroup" then pop

def startInSelect (tag : Tag) : Build Outcome := do
  if tag.name = "html" then repeatRoot tag
  else if tag.name = "option" then finish do
    closeOption
    insertFor tag
  else if tag.name = "optgroup" then finish do
    closeOption
    closeOptionGroup
    insertFor tag
  else if tag.name = "hr" then finish do
    closeOption
    closeOptionGroup
    insertClosed tag
  else if tag.name = "select" then finish closeSelect
  else if ["input", "keygen", "textarea"].contains tag.name then
    if (← get).inScope .select "select" then
      closeSelect
      return .again
    else ignore
  else if ["script", "template"].contains tag.name then startMetadata tag
  else ignore

def closeInSelect (name : String) : Build Outcome := do
  if name = "optgroup" then finish do
    let b ← get
    if b.isNamed "optgroup" (b.openElements.getD 1 0) then closeOption
    closeOptionGroup
  else if name = "option" then finish closeOption
  else if name = "select" then finish closeSelect
  else if name = "template" then closeTemplate
  else ignore

def inSelect : Token → Build Outcome
  | .text _ content => finish (insertText content)
  | .comment => finish insertComment
  | .start tag => startInSelect tag
  | .close name => closeInSelect name
  | .eof => endOfPage
  | _ => ignore

/-- Leaves a select element for a tag of the table around it. -/
def leaveSelect : Build Outcome := do
  popThroughNamed "select"
  resetMode
  return .again

/-- Tags of the table around a select element. -/
def tableTags : List String :=
  ["caption", "table", "tbody", "tfoot", "thead", "tr", "td", "th"]

def inSelectInTable : Token → Build Outcome
  | .start tag => if tableTags.contains tag.name then leaveSelect else startInSelect tag
  | .close name => do
    if tableTags.contains name then
      if (← get).inScope .table name then leaveSelect else ignore
    else closeInSelect name
  | token => inSelect token

/-! ### In templates, after the body, in framesets -/

/-- The mode of a template from its first element on. -/
def templateModeFor (name : String) : Mode :=
  if ["caption", "colgroup", "tbody", "tfoot", "thead"].contains name then .inTable
  else if name = "col" then .inColumnGroup
  else if name = "tr" then .inTableBody
  else if name = "td" ∨ name = "th" then .inRow
  else .inBody

def inTemplate : Token → Build Outcome
  | .text blank content => inBody (.text blank content)
  | .comment => inBody .comment
  | .start tag =>
    if metadata.contains tag.name then startMetadata tag
    else do
      let mode := templateModeFor tag.name
      modify fun b => { b with templateModes := mode :: b.templateModes.drop 1 }
      retry mode
  | .close name => if name = "template" then closeTemplate else ignore
  | .eof => endInTemplate
  | _ => ignore

def afterBody : Token → Build Outcome
  | .text true content => inBody (.text true content)
  | .comment => do finish (insertCommentIn (← get).rootElement)
  | .start tag => if tag.name = "html" then repeatRoot tag else retry .inBody
  | .close name => if name = "html" then finish (setMode .afterAfterBody) else retry .inBody
  | .eof => ignore
  | _ => retry .inBody

def afterAfterBody : Token → Build Outcome
  | .text true content => inBody (.text true content)
  | .comment => finish (insertCommentIn 0)
  | .start tag => if tag.name = "html" then repeatRoot tag else retry .inBody
  | .eof => ignore
  | _ => retry .inBody

def inFrameset : Token → Build Outcome
  | .text true content => finish (insertText content)
  | .comment => finish insertComment
  | .start tag =>
    if tag.name = "html" then repeatRoot tag
    else if tag.name = "frameset" then finish (insertFor tag)
    else if tag.name = "frame" then finish (insertClosed tag)
    else if tag.name = "noframes" then startMetadata tag
    else ignore
  | .close name => finish do
    if name = "frameset" && (← get).openElements.length ≠ 1 then
      pop
      if !(← get).currentIs "frameset" then setMode .afterFrameset
  | _ => ignore

def afterFrameset : Token → Build Outcome
  | .text true content => finish (insertText content)
  | .comment => finish insertComment
  | .start tag =>
    if tag.name = "html" then repeatRoot tag
    else if tag.name = "noframes" then startMetadata tag
    else ignore
  | .close name => finish do
    if name = "html" then setMode .afterAfterFrameset
  | _ => ignore

def afterAfterFrameset : Token → Build Outcome
  | .text true content => inBody (.text true content)
  | .comment => finish (insertCommentIn 0)
  | .start tag =>
    if tag.name = "html" then repeatRoot tag
    else if tag.name = "noframes" then startMetadata tag
    else ignore
  | _ => ignore

/-! ### All modes -/

def step : Mode → Token → Build Outcome
  | .initial => initial
  | .beforeHtml => beforeHtml
  | .beforeHead => beforeHead
  | .inHead => inHead
  | .afterHead => afterHead
  | .inBody => inBody
  | .text => text
  | .inTable => inTable
  | .inTableText => inTableText
  | .inCaption => inCaption
  | .inColumnGroup => inColumnGroup
  | .inTableBody => inTableBody
  | .inRow => inRow
  | .inCell => inCell
  | .inSelect => inSelect
  | .inSelectInTable => inSelectInTable
  | .inTemplate => inTemplate
  | .afterBody => afterBody
  | .inFrameset => inFrameset
  | .afterFrameset => afterFrameset
  | .afterAfterBody => afterAfterBody
  | .afterAfterFrameset => afterAfterFrameset

/-! ### In other vocabularies -/

/-- Elements of the page language that end an element of another vocabulary. -/
def breakouts : List String :=
  ["b", "big", "blockquote", "body", "br", "center", "code", "dd", "div", "dl", "dt", "em",
   "embed", "h1", "h2", "h3", "h4", "h5", "h6", "head", "hr", "i", "img", "li", "listing", "menu",
   "meta", "nobr", "ol", "p", "pre", "ruby", "s", "small", "span", "strong", "strike", "sub",
   "sup", "table", "tt", "u", "ul", "var"]

def breaksOut (tag : Tag) : Bool :=
  breakouts.contains tag.name ||
    (tag.name = "font" &&
      ["color", "face", "size"].any fun a => (tag.attributes.lookup a).isSome)

/-- Whether a token is inside an element of another vocabulary. -/
def isForeign (b : Builder) (token : Token) : Bool :=
  let node := b.current
  if b.vocabularyOf node = .html then false
  else
    match token with
    | .eof => false
    | .text _ _ | .nul => !b.isMathText node && !b.isSvgContainer node
    | .start tag =>
      !(b.isMathText node && tag.name != "mglyph" && tag.name != "malignmark") &&
        !b.isSvgContainer node && !(b.isAnnotation node && tag.name == "svg")
    | _ => true

/-- Closes the innermost element of a name outside of the page language; false when the search
comes back into the page language first. -/
def closeForeign (name : String) (isFirst : Bool) : List Nat → Build Bool
  | [] => return true
  | [_] => return true
  | node :: outer => do
    let b ← get
    if !isFirst && b.vocabularyOf node = .html then return false
    else if lower (b.nameOf node).toList = name.toList then
      modify fun b => { b with openElements := outer }
      return true
    else closeForeign name false outer

def inForeign : Token → Build Outcome
  | .nul => finish (insertText "\uFFFD")
  | .text blank content => finish do
    if !blank then noFrameset
    insertText content
  | .comment => finish insertComment
  | .start tag => do
    if breaksOut tag then
      modify fun b =>
        { b with openElements := b.openElements.dropWhile fun node =>
            b.vocabularyOf node ≠ .html && !b.isMathText node && !b.isSvgContainer node }
      let b ← get
      step b.mode (.start tag)
    else
      let b ← get
      finish (startForeign (b.vocabularyOf b.current) tag)
  | .close name => do
    let b ← get
    if ← closeForeign name true b.openElements then return .done
    else step b.mode (.close name)
  | _ => ignore

/-- Takes a token as often as the rules ask for; `fuel` bounds how often. -/
def advance : Nat → Token → Build Unit
  | 0, _ => return
  | fuel + 1, token => do
    let b ← get
    match ← if isForeign b token then inForeign token else step b.mode token with
    | .done => return
    | .again => advance fuel token

end StatementTables.Html.Build
