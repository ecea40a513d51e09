import StatementTables.Proofs.Cell.Order
import StatementTables.Proofs.Evaluation.Rearrangement
import StatementTables.Proofs.Report.Deviations

/-! # Source tables in another order

The tables in a source table do not depend on the order in which it lists its cells, as long as the
same columns repeat one to their left (`SourceTable.extract_order_independent`): the cells are then
the same after the preparation, after the evaluation and in the grid. -/

namespace StatementTables

open Preparation Evaluation

variable {rules : Rules} {cells moved : List Cell}

theorem distinctReferences_prepareCells (hpositions : (cells.map Cell.position).Nodup)
    (hdistinct : DistinctReferences cells) : DistinctReferences (prepareCells rules cells) := by
  have hreferences : ∀ l : List Cell, (l.filterMap fun c => Reference.parse? c.address) =
      (l.map Cell.key).filterMap fun k => Reference.parse? k.address := fun l => by
    rw [List.filterMap_map]
    rfl
  unfold DistinctReferences at hdistinct ⊢
  rw [hreferences] at hdistinct ⊢
  exact ((keys_prepareCells_sublist hpositions).filterMap _).nodup hdistinct

theorem mem_evaluatedCells_of_perm (h : moved.Perm cells)
    (hpositions : (cells.map Cell.position).Nodup) (hdistinct : DistinctReferences cells)
    (hsame : SameRepeats cells moved) (c : Cell) :
    c ∈ evaluatedCells rules moved ↔ c ∈ evaluatedCells rules cells :=
  Model.mem_evaluateCells_of_perm (prepareCells_perm h hpositions hsame)
    (distinctReferences_prepareCells hpositions hdistinct) c

namespace SourceTable

theorem extract_tables (source : SourceTable) :
    (source.extract rules).1 = do
      let grid ← Grid.ofCells? (evaluatedCells rules source.cells)
      return (← grid.segment? rules).map source.describe := rfl

/-- **The tables in a source table do not depend on the order of its cells**, where no two cells
stand at one position, no two addresses name one cell, and the same columns repeat one to their
left.  The last holds of all listings of the cells exactly if there are no twin columns. -/
theorem extract_order_independent (rules : Rules) (source : SourceTable)
    (hpositions : (source.cells.map Cell.position).Nodup)
    (hdistinct : DistinctReferences source.cells) :
    (∀ moved : List Cell, moved.Perm source.cells → SameRepeats source.cells moved →
      ({ source with cells := moved }.extract rules).1 = (source.extract rules).1) ∧
    ((∀ moved : List Cell, moved.Perm source.cells → SameRepeats source.cells moved) ↔
      NoTwins source.cells) := by
  refine ⟨fun moved hperm hsame => ?_, sameRepeats_iff_noTwins hpositions⟩
  have hgrid : Grid.ofCells? (evaluatedCells rules moved) =
      Grid.ofCells? (evaluatedCells rules source.cells) :=
    Grid.ofCells?_congr (mem_evaluatedCells_of_perm hperm hpositions hdistinct hsame)
      evaluatedCells_nodup evaluatedCells_nodup
  rw [extract_tables, extract_tables, hgrid]
  rfl

/-! ### Listings of small tables -/

/-- What is to be read in the tables: labels, and rows of texts. -/
def texts (rules : Rules) (cells : List Cell) :
    Option (List (List ColumnLabel × List (String × List String))) :=
  ((⟨none, none, none, cells⟩ : SourceTable).extract rules).1.toOption.map fun tables =>
    tables.map fun t => (t.columns, t.rows.map fun row => (row.key, row.values.map CellValue.label))

/-- A table of sales, with more cells behind. -/
def amounts (more : List Cell) : List Cell :=
  [.ofSource "A1" 1 1 .header "شرح" "" "" true, .ofSource "B1" 1 2 .header "Amount" "" "" true,
    .ofSource "A2" 2 1 .body "Sales" "" "" true, .ofSource "B2" 2 2 .body "10" "" "" true] ++ more

theorem amounts_perm {more more' : List Cell} (h : more.Perm more') :
    (amounts more).Perm (amounts more') :=
  h.append_left _

/-- The table with costs of two kinds and a total that doubles what `B3` says. -/
def doubled (costs : List Cell) : List Cell :=
  amounts ([.ofSource "A3" 3 1 .body "Wages" "" "" true, .ofSource "A4" 4 1 .body "Rent" "" "" true,
    .ofSource "A5" 5 1 .body "Total" "" "" true, .ofSource "B5" 5 2 .body "" "=B3*2" "" true] ++
      costs)

def wages : Cell := .ofSource "B3" 3 2 .body "7" "" "" true

def rent (address : String) : Cell := .ofSource address 4 2 .body "8" "" "" true

/-- However the cells are listed, the wages are doubled. -/
theorem extract_order_independent_doubled :
    let source : SourceTable := ⟨none, none, none, doubled [wages, rent "B4"]⟩
    (source.cells.map Cell.position).Nodup ∧ DistinctReferences source.cells ∧
    NoTwins source.cells ∧
    (∀ moved : List Cell, moved.Perm source.cells →
      ({ source with cells := moved }.extract defaultRules).1 = (source.extract defaultRules).1) ∧
    texts defaultRules source.cells = some [([.single "Amount"],
      [("Sales", ["10"]), ("Wages", ["7"]), ("Rent", ["8"]), ("Total", ["14"])])] := by
  intro source
  have hpositions : (source.cells.map Cell.position).Nodup := by decide +kernel
  have hdistinct : DistinctReferences source.cells := by
    unfold DistinctReferences
    decide +kernel
  have htwins : NoTwins source.cells := by
    unfold NoTwins
    decide +kernel
  obtain ⟨hextract, hsame⟩ := extract_order_independent defaultRules source hpositions hdistinct
  exact ⟨hpositions, hdistinct, htwins,
    fun moved hperm => hextract moved hperm (hsame.mpr htwins moved hperm), by decide +kernel⟩

/-- The header and the only amount of a column that repeats the amounts of sales. -/
def repeatedHeader : Cell := .ofSource "C1" 1 3 .header "Amount" "" "" true

def repeatedAmount : Cell := .ofSource "C2" 2 3 .body "10" "" "" true

/-- A column that repeats another is dropped if it is listed like the other, and kept if its header
comes last.  Where two addresses spell one cell, a formula reads the one that is listed last. -/
theorem listing_order_seen :
    (let cells := amounts [repeatedHeader, repeatedAmount]
      let moved := amounts [repeatedAmount, repeatedHeader]
      moved.Perm cells ∧ (cells.map Cell.position).Nodup ∧ (cells.map Cell.address).Nodup ∧
      DistinctReferences cells ∧
      texts defaultRules cells = some [([.single "Amount"], [("Sales", ["10"])])] ∧
      texts defaultRules moved =
        some [([.single "Amount", .single "Amount"], [("Sales", ["10", "10"])])]) ∧
    (let cells := doubled [wages, rent "$B$3"]
      let moved := doubled [rent "$B$3", wages]
      moved.Perm cells ∧ (cells.map Cell.position).Nodup ∧ (cells.map Cell.address).Nodup ∧
      NoTwins cells ∧
      texts defaultRules cells = some [([.single "Amount"],
        [("Sales", ["10"]), ("Wages", ["7"]), ("Rent", ["8"]), ("Total", ["16"])])] ∧
      texts defaultRules moved = some [([.single "Amount"],
        [("Sales", ["10"]), ("Wages", ["7"]), ("Rent", ["8"]), ("Total", ["14"])])]) := by
  unfold DistinctReferences NoTwins
  refine ⟨⟨amounts_perm (.swap _ _ _), ?_, ?_, ?_, ?_, ?_⟩,
    ⟨amounts_perm ((List.Perm.swap _ _ _).append_left _), ?_, ?_, ?_, ?_, ?_⟩⟩
  all_goals decide +kernel

end SourceTable

end StatementTables
