import StatementTables.Proofs.Table.Flat

/-! # Hidden rows in flat tables

A flat table is read from the first table with header cells and the first with data cells
(`flat?_eq_of_firsts`), and both are looked for everywhere below a table.  So a hidden row is passed
over where rows are read, but not where cells and rows are found: its header cells are in the
header, its data cells make its table the one that rows are read from, and the rows nested in it are
rows of the table.  Where neither the row nor anything around it is a shown row or header cell, that
is all that is seen of it: `hidden_row_read_iff` says when one content of the row and another read
the same. -/

namespace StatementTables

open Html Html.Node

/-! ### A row in a tree -/

/-- Whether a node is a shown row or a shown header cell. -/
def isSeen (node : Node) : Bool :=
  isShown ["tr"] hiddenRowClasses node || isShown ["th"] hiddenClasses node

/-- A tree with a row in it whose children are left open. -/
inductive RowFrame where
  | row (serial : Nat) (attributes : List (String × String))
  | element (serial : Nat) (name : String) (attributes : List (String × String))
      (front : List Node) (inside : RowFrame) (back : List Node)
  | fragment (front : List Node) (inside : RowFrame) (back : List Node)

namespace RowFrame

/-- The tree with given children of the row. -/
def fill (contents : List Node) : RowFrame → Node
  | row serial attributes => .element serial "tr" attributes contents
  | element serial name attributes front inside back =>
    .element serial name attributes (front ++ inside.fill contents :: back)
  | fragment front inside back => .fragment (front ++ inside.fill contents :: back)

/-- Whether the row is hidden and nothing around it is a shown row or header cell. -/
def isUnseen : RowFrame → Bool
  | row serial attributes => (Node.element serial "tr" attributes []).hasClass hiddenRowClasses
  | element serial name attributes _ inside _ =>
    !isSeen (.element serial name attributes []) && inside.isUnseen
  | fragment _ inside _ => inside.isUnseen

variable {f : RowFrame} {names hidden : List String}

theorem isSeen_fill (hf : f.isUnseen = true) (contents : List Node) :
    isSeen (f.fill contents) = false := by
  cases f with
  | row serial attributes =>
      have hclass :
          (Node.element serial "tr" attributes contents).hasClass hiddenRowClasses = true :=
        hf
      simp [fill, isSeen, isShown, isElement, hasName, hclass]
  | element serial name attributes front inside back =>
      have houter : (!isSeen (.element serial name attributes [])) = true :=
        (Bool.and_eq_true_iff.mp hf).1
      exact Bool.not_eq_true' _ ▸ houter
  | fragment front inside back => rfl

theorem isUnseen_inside {serial : Nat} {name : String} {attributes : List (String × String)}
    {front back : List Node} {inside : RowFrame}
    (hf : (element serial name attributes front inside back).isUnseen = true) :
    inside.isUnseen = true :=
  (Bool.and_eq_true_iff.mp hf).2

theorem forest_fill (front back : List Node) (inside : Node) :
    forest (front ++ inside :: back) = forest front ++ (inside.subtree ++ forest back) := by
  rw [forest_append, forest]

/-- What has a property before the row, without the nodes around it. -/
def before (p : Node → Bool) : RowFrame → List Node
  | row _ _ => []
  | element _ _ _ front inside _ => (forest front).filter p ++ inside.before p
  | fragment front inside _ => (forest front).filter p ++ inside.before p

/-- What has a property behind the row. -/
def after (p : Node → Bool) : RowFrame → List Node
  | row _ _ => []
  | element _ _ _ _ inside back => inside.after p ++ (forest back).filter p
  | fragment _ inside back => inside.after p ++ (forest back).filter p

section filter
variable (hseen : ∀ node, isShown names hidden node = true → isSeen node = true)
include hseen

/-- The node at the top of an unseen row is not shown itself. -/
theorem filter_subtree_fill (hf : f.isUnseen = true) (contents : List Node) :
    (f.fill contents).subtree.filter (isShown names hidden) =
      (f.fill contents).descendants.filter (isShown names hidden) := by
  rw [subtree_eq, List.filter_cons_of_neg]
  intro hshown
  have hunseen := isSeen_fill hf contents
  rw [hseen _ hshown] at hunseen
  cases hunseen

/-- What is shown in the row stands between what is shown before and behind it. -/
theorem filter_fill (hf : f.isUnseen = true) (contents : List Node) :
    (f.fill contents).descendants.filter (isShown names hidden) =
      f.before (isShown names hidden) ++
        ((forest contents).filter (isShown names hidden) ++ f.after (isShown names hidden)) := by
  induction f with
  | row serial attributes =>
      rw [before, after, List.nil_append, List.append_nil]
      rfl
  | element serial name attributes front inside back ih =>
      have hinside := isUnseen_inside hf
      rw [fill, descendants, children, forest_fill, List.filter_append, List.filter_append,
        filter_subtree_fill hseen hinside, ih hinside, before, after]
      simp only [List.append_assoc]
  | fragment front inside back ih =>
      have hinside : inside.isUnseen = true := hf
      rw [fill, descendants, children, forest_fill, List.filter_append, List.filter_append,
        filter_subtree_fill hseen hinside, ih hinside, before, after]
      simp only [List.append_assoc]

end filter

/-- What is shown below the tree is shown without the contents of the row, or among them. -/
theorem any_fill (f : RowFrame) (contents : List Node) :
    (f.fill contents).descendants.any (isShown names hidden) =
      ((f.fill []).descendants.any (isShown names hidden) ||
        (forest contents).any (isShown names hidden)) := by
  have hroot : ∀ f : RowFrame,
      isShown names hidden (f.fill contents) = isShown names hidden (f.fill []) := by
    intro f
    cases f <;> rfl
  induction f with
  | row serial attributes => rfl
  | element serial name attributes front inside back ih =>
      simp only [fill, descendants, children, forest_fill, subtree_eq, List.any_append,
        List.any_cons, hroot] at ih ⊢
      rw [ih]
      ac_rfl
  | fragment front inside back ih =>
      simp only [fill, descendants, children, forest_fill, subtree_eq, List.any_append,
        List.any_cons, hroot] at ih ⊢
      rw [ih]
      ac_rfl

theorem headerTexts_fill_inj (hf : f.isUnseen = true) {old new : List Node} :
    headerTexts (f.fill old) = headerTexts (f.fill new) ↔
      headerTexts (.fragment old) = headerTexts (.fragment new) := by
  have htexts : ∀ contents, headerTexts (f.fill contents) =
      (f.before (isShown ["th"] hiddenClasses)).map headerText ++
        (headerTexts (.fragment contents) ++
          (f.after (isShown ["th"] hiddenClasses)).map headerText) := by
    intro contents
    rw [headerTexts, shownHeaderCells, shown_eq_filter,
      filter_fill (fun _ => Bool.or_eq_true_iff.mpr ∘ .inr) hf, List.map_append, List.map_append]
    rfl
  rw [htexts, htexts, List.append_cancel_left_eq, List.append_cancel_right_eq]

theorem bodyTexts_fill_inj (hf : f.isUnseen = true) {old new : List Node} :
    bodyTexts (f.fill old) = bodyTexts (f.fill new) ↔
      bodyTexts (.fragment old) = bodyTexts (.fragment new) := by
  let read (rows : List Node) : List (List String) :=
    (rows.map fun row => (shownDataCells row).map cellText).filter (!·.isEmpty)
  have htexts : ∀ contents, bodyTexts (f.fill contents) =
      read (f.before (isShown ["tr"] hiddenRowClasses)) ++
        (bodyTexts (.fragment contents) ++ read (f.after (isShown ["tr"] hiddenRowClasses))) := by
    intro contents
    rw [bodyTexts, shownRows, shown_eq_filter,
      filter_fill (fun _ => Bool.or_eq_true_iff.mpr ∘ .inl) hf, List.map_append, List.map_append,
      List.filter_append, List.filter_append]
    rfl
  rw [htexts, htexts, List.append_cancel_left_eq, List.append_cancel_right_eq]

theorem hasDataCells_fill (f : RowFrame) (contents : List Node) :
    hasDataCells (f.fill contents) =
      (hasDataCells (f.fill []) || hasDataCells (.fragment contents)) := by
  rw [hasDataCells_eq_any, hasDataCells_eq_any, hasDataCells_eq_any]
  exact f.any_fill contents

end RowFrame

/-! ### What is seen of a hidden row -/

/-- Tables that are the same but for the contents of a row that is not seen, if they have it. -/
inductive Refilled (old new : List Node) : Node → Node → Prop
  | same (table : Node) : Refilled old new table table
  | filled (f : RowFrame) (unseen : f.isUnseen = true) : Refilled old new (f.fill old) (f.fill new)

namespace Refilled

variable {old new : List Node} {table table' : Node}

theorem headerTexts_eq (h : Refilled old new table table')
    (heq : headerTexts (.fragment old) = headerTexts (.fragment new)) :
    headerTexts table = headerTexts table' := by
  cases h with
  | same => rfl
  | filled f unseen => exact (RowFrame.headerTexts_fill_inj unseen).mpr heq

theorem bodyTexts_eq (h : Refilled old new table table')
    (heq : bodyTexts (.fragment old) = bodyTexts (.fragment new)) :
    bodyTexts table = bodyTexts table' := by
  cases h with
  | same => rfl
  | filled f unseen => exact (RowFrame.bodyTexts_fill_inj unseen).mpr heq

theorem hasDataCells_eq (h : Refilled old new table table')
    (heq : hasDataCells (.fragment old) = hasDataCells (.fragment new)) :
    hasDataCells table = hasDataCells table' := by
  cases h with
  | same => rfl
  | filled f unseen => rw [f.hasDataCells_fill old, f.hasDataCells_fill new, heq]

end Refilled

section refilled
variable {f : RowFrame} {old new ahead behind behind' : List Node}

theorem firstHeader?_fill_inj (hf : f.isUnseen = true)
    (hbehind : List.Forall₂ (Refilled old new) behind behind') :
    firstHeader? (f.fill old :: behind) = firstHeader? (f.fill new :: behind') ↔
      headerTexts (.fragment old) = headerTexts (.fragment new) := by
  constructor
  · intro h
    obtain ⟨hhas, h⟩ := firstReading_cons_inj.mp h
    refine (RowFrame.headerTexts_fill_inj hf).mp ?_
    split at h
    · exact h
    · -- neither table has header cells
      rename_i hnone
      have hnil : ∀ table, ¬ hasHeaderCells table = true → headerTexts table = [] := by
        intro table hno
        rw [hasHeaderCells_eq, Bool.not_eq_true', Bool.not_eq_false] at hno
        exact List.isEmpty_iff.mp hno
      rw [hnil _ hnone, hnil _ (hhas ▸ hnone)]
  · intro h
    refine firstReading_congr ((hbehind.cons (.filled f hf)).imp fun table table' hrefilled => ?_)
    have htexts := hrefilled.headerTexts_eq h
    exact ⟨by rw [hasHeaderCells_eq, hasHeaderCells_eq, htexts], htexts⟩

theorem firstBody?_fill_inj (hf : f.isUnseen = true)
    (hbehind : List.Forall₂ (Refilled old new) behind behind') :
    firstBody? (f.fill old :: behind) = firstBody? (f.fill new :: behind') ↔
      (hasDataCells (f.fill []) = true ∨
          hasDataCells (.fragment old) = hasDataCells (.fragment new)) ∧
        bodyTexts (.fragment old) = bodyTexts (.fragment new) := by
  have hold := f.hasDataCells_fill old
  have hnew := f.hasDataCells_fill new
  constructor
  · intro h
    obtain ⟨hhas, h⟩ := firstReading_cons_inj.mp h
    refine ⟨?_, (RowFrame.bodyTexts_fill_inj hf).mp ?_⟩
    · rw [hold, hnew] at hhas
      cases hempty : hasDataCells (f.fill []) with
      | true => exact .inl rfl
      | false => exact .inr (by simpa only [hempty, Bool.false_or] using hhas)
    · split at h
      · exact h
      · -- neither table has data cells
        rename_i hnone
        rw [bodyTexts_eq_nil (Bool.eq_false_iff.mpr hnone),
          bodyTexts_eq_nil (Bool.eq_false_iff.mpr (hhas ▸ hnone))]
  · rintro ⟨hdata, h⟩
    refine firstReading_cons_inj.mpr ⟨?_, ?_⟩
    · rcases hdata with hempty | heq
      · rw [hold, hnew, hempty, Bool.true_or, Bool.true_or]
      · rw [hold, hnew, heq]
    · split
      · exact (RowFrame.bodyTexts_fill_inj hf).mpr h
      · rename_i hnone
        -- without data cells in it, the row is not what the tables behind are told by
        have heq : hasDataCells (.fragment old) = hasDataCells (.fragment new) := by
          refine hdata.resolve_left fun hempty => hnone ?_
          rw [hold, hempty, Bool.true_or]
        refine firstReading_congr (hbehind.imp fun table table' hrefilled => ?_)
        exact ⟨hrefilled.hasDataCells_eq heq, hrefilled.bodyTexts_eq h⟩

end refilled

/-- A table ahead of those with a hidden row has header cells, or two contents of the row have the
same header texts. -/
def KeepsHeader (ahead old new : List Node) : Prop :=
  (∃ table ∈ ahead, hasHeaderCells table = true) ∨
    headerTexts (.fragment old) = headerTexts (.fragment new)

/-- A table ahead of the one with a hidden row has data cells, or two contents of the row agree on
whether the table has some, and on the rows in them. -/
def KeepsBody (ahead : List Node) (f : RowFrame) (old new : List Node) : Prop :=
  (∃ table ∈ ahead, hasDataCells table = true) ∨
    (hasDataCells (f.fill []) = true ∨
        hasDataCells (.fragment old) = hasDataCells (.fragment new)) ∧
      bodyTexts (.fragment old) = bodyTexts (.fragment new)

/-- **Hidden rows.**  Let a hidden row be in no shown row or header cell.  With one content of it
and with another, the header is the same and from the same table exactly if a table ahead has header
cells or the contents have the same header texts.  The rows are so exactly if a table ahead has data
cells, or the rows in the contents read the same and it is not told by the contents whether the
table has data cells.  If both are, the table that is read is the same. -/
theorem hidden_row_read_iff {f : RowFrame} (hf : f.isUnseen = true)
    {old new ahead behind behind' : List Node}
    (hbehind : List.Forall₂ (Refilled old new) behind behind') :
    (firstHeader? (ahead ++ f.fill old :: behind) = firstHeader? (ahead ++ f.fill new :: behind') ↔
        KeepsHeader ahead old new) ∧
      (firstBody? (ahead ++ f.fill old :: behind) = firstBody? (ahead ++ f.fill new :: behind') ↔
        KeepsBody ahead f old new) ∧
      (KeepsHeader ahead old new → KeepsBody ahead f old new →
        RenderedTable.flat? (ahead ++ f.fill old :: behind) =
          RenderedTable.flat? (ahead ++ f.fill new :: behind')) := by
  have hheader : firstHeader? (ahead ++ f.fill old :: behind) =
      firstHeader? (ahead ++ f.fill new :: behind') ↔ KeepsHeader ahead old new :=
    firstReading_append_inj.trans (or_congr_right (firstHeader?_fill_inj hf hbehind))
  have hbody : firstBody? (ahead ++ f.fill old :: behind) =
      firstBody? (ahead ++ f.fill new :: behind') ↔ KeepsBody ahead f old new :=
    firstReading_append_inj.trans (or_congr_right (firstBody?_fill_inj hf hbehind))
  refine ⟨hheader, hbody, fun hkeepsHeader hkeepsBody => ?_⟩
  rw [flat?_eq_of_firsts, flat?_eq_of_firsts, hheader.mpr hkeepsHeader, hbody.mpr hkeepsBody]

/-- Data cells of a hidden row are passed over where their table has others. -/
theorem hidden_row_passed_over :
    let cell (name text : String) : Node := .element 9 name [] [.text text]
    let head : Node := .element 3 "tr" [] [cell "th" "Item", cell "th" "Amount"]
    let row : Node := .element 4 "tr" [] [cell "td" "Rent", cell "td" "12"]
    let f : RowFrame := .element 1 "table" [] [head]
      (.row 2 [("class", "HiddenRow")]) [row]
    let old : List Node := [cell "td" "Fee", cell "td" "7"]
    let new : List Node := [cell "td" "None"]
    (f.isUnseen = true ∧ List.Forall₂ (Refilled old new) [f.fill old, head] [f.fill new, head]) ∧
      RenderedTable.flat? [f.fill old, f.fill old, head] =
        RenderedTable.flat? [f.fill new, f.fill new, head] := by
  intro cell head row f old new
  have hf : f.isUnseen = true := by decide
  have hbehind : List.Forall₂ (Refilled old new) [f.fill old, head] [f.fill new, head] :=
    .cons (.filled f hf) (.cons (.same head) .nil)
  have hheader : headerTexts (.fragment old) = headerTexts (.fragment new) := by decide
  have hbody : bodyTexts (.fragment old) = bodyTexts (.fragment new) := by decide
  have hothers : hasDataCells (f.fill []) = true := by decide
  have hsame : RenderedTable.flat? ([] ++ [f.fill old, f.fill old, head]) =
      RenderedTable.flat? ([] ++ [f.fill new, f.fill new, head]) :=
    (hidden_row_read_iff hf hbehind).2.2 (.inr hheader) (.inr ⟨.inl hothers, hbody⟩)
  exact ⟨⟨hf, hbehind⟩, hsame⟩

/-- Header cells, data cells and rows below a hidden row are seen, and so is all of it in a shown
cell. -/
theorem hidden_row_seen :
    let cell (name text : String) : Node := .element 9 name [] [.text text]
    let head : Node := .element 3 "tr" [] [cell "th" "Item", cell "th" "Amount"]
    let row : Node := .element 4 "tr" [] [cell "td" "Rent", cell "td" "12"]
    let frame (rows : List Node) : RowFrame :=
      .element 1 "table" [] [] (.row 2 [("class", "HiddenRow")]) rows
    let nested : Node := .element 9 "td" [] [.element 5 "table" [] [row]]
    let outer (hidden : List Node) : Node := .element 6 "table" []
      [head, .element 7 "tr" [] [.element 8 "td" [] [(frame []).fill hidden]]]
    let header := [[some "Item", some "Amount"]]
    (RenderedTable.flat? [(frame [head, row]).fill [cell "td" "Fee"]] =
        .ok ⟨header, [["Rent", "12"]]⟩ ∧
      RenderedTable.flat? [(frame [head, row]).fill [cell "th" "Fee"]] =
        .ok ⟨[[some "Fee", some "Item", some "Amount"]], [["Rent", "12"]]⟩ ∧
      RenderedTable.flat? [(frame [head, row]).fill [nested]] =
        .ok ⟨header, [["Rent", "12"], ["Rent", "12"]]⟩) ∧
    (RenderedTable.flat? [(frame [head]).fill [], (frame [row]).fill []] =
        .ok ⟨header, [["Rent", "12"]]⟩ ∧
      RenderedTable.flat? [(frame [head]).fill [cell "td" "Fee"], (frame [row]).fill []] =
        .ok ⟨header, []⟩) ∧
    RenderedTable.flat? [outer [cell "td" "Fee"]] = .ok ⟨header, [["Fee", "Fee"]]⟩ ∧
    ¬ ∀ (f : RowFrame) (old new : List Node), f.isUnseen = true →
      (∀ node ∈ old ++ new, node.hasName "th" = true ∨ node.hasName "td" = true) →
      RenderedTable.flat? [f.fill old] = RenderedTable.flat? [f.fill new] := by
  refine ⟨⟨?_, ?_, ?_⟩, ⟨?_, ?_⟩, ?_, fun hall => ?_⟩
  · rfl
  · rfl
  · rfl
  · rfl
  · rfl
  · rfl
  · -- one hidden header cell in the place of another
    have hsame := hall
      (.element 1 "table" [] [] (.row 2 [("class", "HiddenRow")]) [])
      [.element 9 "th" [] [.text "Fee"]] [.element 9 "th" [] [.text "Item"]] (by decide) (by decide)
    have hheaders := congrArg (fun read => read.toOption.map RenderedTable.header) hsame
    exact absurd hheaders (by decide)

end StatementTables
