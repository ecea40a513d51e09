import Mathlib.Data.List.Forall2
import StatementTables.Proofs.Html.Node
import StatementTables.Table.Rendered

/-! # How flat tables are read

A flat table has its header from the first table that shows a header cell and its rows from the
first that shows a data cell (`firstHeader?`, `firstBody?`): the texts of all header cells of the
one, and of the data cells of the other row by row (`flat?_eq_of_firsts`).  Two lists of tables that
are the same up to some point have the same first reading exactly if a table up to there is of the
kind, or what follows has (`firstReading_append_inj`, `firstReading_cons_inj`). -/

namespace StatementTables

open Html Html.Node

/-! ### What is shown -/

/-- Whether an element of some names is shown. -/
def isShown (names hidden : List String) (node : Node) : Bool :=
  node.isElement && (names.any (node.hasName ·) && !node.hasClass hidden)

theorem shown_eq_filter (names hidden : List String) (node : Node) :
    shown names hidden node = node.descendants.filter (isShown names hidden) :=
  rfl

theorem hasDataCells_eq_any (node : Node) :
    hasDataCells node = node.descendants.any (isShown ["td"] hiddenClasses) := by
  rw [Bool.eq_iff_iff, hasDataCells, shownDataCells, shown_eq_filter, Bool.not_eq_true',
    List.isEmpty_eq_false_iff, Ne, List.filter_eq_nil_iff, List.any_eq_true]
  push Not
  rfl

/-! ### What is read of a table -/

/-- The texts of the header cells of a table. -/
def headerTexts (table : Node) : List String :=
  (shownHeaderCells table).map headerText

/-- The texts of the data cells of a table, for each of its rows that has some. -/
def bodyTexts (table : Node) : List (List String) :=
  ((shownRows table).map fun row => (shownDataCells row).map cellText).filter (!·.isEmpty)

theorem hasHeaderCells_eq (table : Node) :
    hasHeaderCells table = !(headerTexts table).isEmpty := by
  rw [hasHeaderCells, headerTexts, List.isEmpty_map]

/-- A table without data cells has no rows to read. -/
theorem bodyTexts_eq_nil {table : Node} (h : hasDataCells table = false) :
    bodyTexts table = [] := by
  refine List.filter_eq_nil_iff.mpr fun texts htexts => ?_
  obtain ⟨row, hrow, rfl⟩ := List.mem_map.mp htexts
  have hbelow := descendants_sublist (List.mem_of_mem_filter hrow)
  have hcells : (shownDataCells row).Sublist [] := by
    rw [hasDataCells, Bool.not_eq_false'] at h
    rw [← List.isEmpty_iff.mp h]
    exact hbelow.filter _
  rw [List.sublist_nil.mp hcells]
  decide

/-! ### The first table of a kind -/

section first
variable {α : Type} {has : Node → Bool} {read : Node → α} {table table' : Node}
  {ahead tables tables' : List Node}

/-- The place of the first table of a kind among some, and what is read of it. -/
def firstReading (has : Node → Bool) (read : Node → α) : List Node → Option (Nat × α)
  | [] => none
  | table :: tables =>
    if has table then some (0, read table)
    else (firstReading has read tables).map fun found => (found.1 + 1, found.2)

theorem firstReading_eq_find? :
    (firstReading has read tables).map Prod.snd = (tables.find? has).map read := by
  induction tables with
  | nil => rfl
  | cons table tables ih =>
      rw [firstReading, List.find?_cons]
      cases has table with
      | true => rfl
      | false =>
          simp only [Bool.false_eq_true, if_false, Option.map_map]
          exact ih

theorem firstReading_cons_inj :
    firstReading has read (table :: tables) = firstReading has read (table' :: tables') ↔
      has table = has table' ∧
        if has table then read table = read table'
        else firstReading has read tables = firstReading has read tables' := by
  have hnext : Function.Injective
      (Option.map fun found : Nat × α => (found.1 + 1, found.2)) := by
    refine Option.map_injective fun found found' heq => ?_
    rw [Prod.mk.injEq, Nat.add_right_cancel_iff] at heq
    exact Prod.ext heq.1 heq.2
  have hlater : ∀ (a : α) (found : Option (Nat × α)),
      some (0, a) ≠ found.map fun found => (found.1 + 1, found.2) := by
    rintro a (_ | found) heq
    · cases heq
    · exact Nat.succ_ne_zero _ (congrArg Prod.fst (Option.some_inj.mp heq)).symm
  rw [firstReading, firstReading]
  cases has table <;> cases has table'
  · simp [hnext.eq_iff]
  · simp [(hlater _ _).symm]
  · simp [hlater]
  · simp

theorem firstReading_append_inj :
    firstReading has read (ahead ++ tables) = firstReading has read (ahead ++ tables') ↔
      (∃ table ∈ ahead, has table = true) ∨
        firstReading has read tables = firstReading has read tables' := by
  induction ahead with
  | nil => simp
  | cons table ahead ih =>
      rw [List.cons_append, List.cons_append, firstReading_cons_inj, ih]
      cases h : has table <;> simp [h]

theorem firstReading_congr
    (h : List.Forall₂ (fun t t' => has t = has t' ∧ read t = read t') tables tables') :
    firstReading has read tables = firstReading has read tables' := by
  induction h with
  | nil => rfl
  | cons hhead htail ih => rw [firstReading, firstReading, hhead.1, hhead.2, ih]

end first

/-- The place of the table that the header is read from, and the texts of its header cells. -/
def firstHeader? (tables : List Node) : Option (Nat × List String) :=
  firstReading hasHeaderCells headerTexts tables

/-- The place of the table that rows are read from, and their texts. -/
def firstBody? (tables : List Node) : Option (Nat × List (List String)) :=
  firstReading hasDataCells bodyTexts tables

theorem flat?_eq_of_firsts (tables : List Node) :
    RenderedTable.flat? tables =
      match firstHeader? tables with
      | none => .error .noHeader
      | some header => .ok {
          header := [header.2.map some]
          rows := ((firstBody? tables).map Prod.snd).getD [] } := by
  have hheader :
      (firstHeader? tables).map Prod.snd = (tables.find? hasHeaderCells).map headerTexts :=
    firstReading_eq_find?
  have hbody : (firstBody? tables).map Prod.snd = (tables.find? hasDataCells).map bodyTexts :=
    firstReading_eq_find?
  unfold RenderedTable.flat?
  cases hfirst : firstHeader? tables with
  | none =>
      rw [hfirst, Option.map_none, eq_comm, Option.map_eq_none_iff] at hheader
      rw [hheader]
  | some header =>
      rw [hfirst, Option.map_some, eq_comm, Option.map_eq_some_iff] at hheader
      obtain ⟨table, htable, htexts⟩ := hheader
      rw [htable]
      dsimp only
      rw [← htexts, hbody, headerTexts, List.map_map]
      cases tables.find? hasDataCells <;> rfl

theorem flat?_singleton {table : Node} (h : hasHeaderCells table = true) :
    RenderedTable.flat? [table] =
      .ok { header := [(headerTexts table).map some], rows := bodyTexts table } := by
  have hheader : firstHeader? [table] = some (0, headerTexts table) := if_pos h
  have hbody : ((firstBody? [table]).map Prod.snd).getD [] = bodyTexts table := by
    rw [firstBody?, firstReading_eq_find?]
    cases hdata : hasDataCells table with
    | true => rw [List.find?_cons_of_pos hdata, Option.map_some, Option.getD_some]
    | false =>
        rw [List.find?_cons_of_neg (Bool.eq_false_iff.mp hdata), bodyTexts_eq_nil hdata]
        rfl
  rw [flat?_eq_of_firsts, hheader, hbody]

end StatementTables
