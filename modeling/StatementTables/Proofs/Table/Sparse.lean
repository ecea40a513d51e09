import StatementTables.Proofs.Table.Pivot

/-! # From listed cells to a grid

A table lists its cells in any order, may leave positions out and may list some more than once.  Its
grid is told by what is visible: the rows with a header cell, the columns and the rows below, each
once and in ascending order, and at every position the last cell that is listed there, if any
(`IsGridOf`).  A table without a visible header cell has no grid, any other has exactly the one that
is so described (`ofCells?_describes`). -/

namespace StatementTables

/-! ### Numbers that occur -/

/-- The numbers with a property, each once, in ascending order. -/
structure Enumerates (numbers : List Int) (P : Int → Prop) : Prop where
  sorted : numbers.Pairwise (· < ·)
  complete : ∀ n, n ∈ numbers ↔ P n

theorem enumerates_ascending {xs : List Int} {P : Int → Prop} (h : ∀ n, n ∈ xs ↔ P n) :
    Enumerates (ascending xs) P where
  sorted := pairwise_ascending xs
  complete := fun n => mem_ascending.trans (h n)

theorem Enumerates.unique {xs ys : List Int} {P : Int → Prop} (hxs : Enumerates xs P)
    (hys : Enumerates ys P) : xs = ys :=
  List.Pairwise.eq_of_mem_iff hxs.sorted hys.sorted fun n =>
    (hxs.complete n).trans (hys.complete n).symm

namespace Grid

/-! ### The last cell of a position -/

/-- The last visible cell that is listed at a position, if there is one. -/
def IsLastAt (cells : List Cell) (y x : Int) : Option Cell → Prop
  | some c => ∃ before after, cells = before ++ c :: after ∧
      (c.visible = true ∧ c.row = y ∧ c.col = x) ∧
      ∀ d ∈ after, ¬ (d.visible = true ∧ d.row = y ∧ d.col = x)
  | none => ∀ d ∈ cells, ¬ (d.visible = true ∧ d.row = y ∧ d.col = x)

variable {cells : List Cell} {x y : Int}

theorem isLastAt_iff {last : Option Cell} :
    IsLastAt cells y x last ↔ cellAt? (cells.filter Cell.visible) y x = last := by
  have hfind : cellAt? (cells.filter Cell.visible) y x =
      cells.reverse.find? fun c => c.visible && (c.row == y && c.col == x) := by
    rw [cellAt?, ← List.filter_reverse, List.find?_filter]
    simp only [Bool.decide_and, Bool.decide_eq_true]
  rw [hfind]
  cases last with
  | none =>
      rw [List.find?_eq_none]
      simp only [IsLastAt, List.mem_reverse, Bool.and_eq_true, beq_iff_eq]
  | some c =>
      rw [List.find?_eq_some_iff_append]
      simp only [IsLastAt, Bool.and_eq_true, beq_iff_eq, Bool.not_eq_true', ← Bool.not_eq_true]
      -- what comes after the last is what comes before it from the other end
      constructor
      · rintro ⟨before, after, rfl, hshown, hlast⟩
        refine ⟨hshown, after.reverse, before.reverse, by simp, fun d hd => ?_⟩
        exact hlast d (List.mem_reverse.mp hd)
      · rintro ⟨hshown, after, before, hcells, hlast⟩
        refine ⟨before.reverse, after.reverse, ?_, hshown, fun d hd => ?_⟩
        · rw [← List.reverse_reverse cells, hcells]
          simp
        · exact hlast d (List.mem_reverse.mp hd)

theorem isLastAt_cellAt? (cells : List Cell) (y x : Int) :
    IsLastAt cells y x (cellAt? (cells.filter Cell.visible) y x) :=
  isLastAt_iff.mpr rfl

/-- What a grid makes of the last cell of a position. -/
def IsShown {α : Type} (cells : List Cell) (read : Option Cell → α) (y x : Int) (a : α) : Prop :=
  ∃ last, IsLastAt cells y x last ∧ read last = a

theorem isShown_rightUnique {α : Type} (read : Option Cell → α) (y : Int) :
    Relator.RightUnique (IsShown cells read y) := by
  rintro x a b ⟨last, hlast, rfl⟩ ⟨last', hlast', rfl⟩
  rw [← isLastAt_iff.mp hlast, isLastAt_iff.mp hlast']

/-! ### The grid -/

/-- The text of a cell as a header has it. -/
def labelText (last : Option Cell) : Option String :=
  last.map fun c => Text.cleanLabel c.value.label

/-- The value of a cell, nothing where there is none. -/
def valueOf (last : Option Cell) : CellValue :=
  (last.map Cell.value).getD .null

/-- A grid with the columns and rows that occur, under the header of the rows with header cells. -/
structure IsGridOf (cells : List Cell) (header columns body : List Int) (texts : HeaderMatrix)
    (g : Grid) : Prop where
  headed : header ≠ []
  headerRows : Enumerates header fun y =>
    ∃ c ∈ cells, c.visible = true ∧ c.group = .header ∧ c.row = y
  columnNumbers : Enumerates columns fun x => ∃ c ∈ cells, c.visible = true ∧ c.col = x
  bodyRows : Enumerates body fun y =>
    (∃ c ∈ cells, c.visible = true ∧ c.row = y) ∧ ∀ h ∈ header, h < y
  headerTexts :
    List.Forall₂ (fun y => List.Forall₂ (IsShown cells labelText y) columns) header texts
  labels : g.labels = fillHeader texts
  rows : List.Forall₂ (fun y => List.Forall₂ (IsShown cells valueOf y) columns) body g.rows

theorem IsGridOf.unique {header columns body header' columns' body' : List Int}
    {texts texts' : HeaderMatrix} {g g' : Grid} (h : IsGridOf cells header columns body texts g)
    (h' : IsGridOf cells header' columns' body' texts' g') : g = g' := by
  obtain rfl := h.headerRows.unique h'.headerRows
  obtain rfl := h.columnNumbers.unique h'.columnNumbers
  obtain rfl := h.bodyRows.unique h'.bodyRows
  have hunique : ∀ {α : Type} (read : Option Cell → α), Relator.RightUnique fun y =>
      List.Forall₂ (IsShown cells read y) columns := fun read y _ _ hrow hrow' =>
    (isShown_rightUnique read y).forall₂ hrow hrow'
  obtain rfl := (hunique labelText).forall₂ h.headerTexts h'.headerTexts
  have hrows := (hunique valueOf).forall₂ h.rows h'.rows
  have hlabels : g.labels = g'.labels := h.labels.trans h'.labels.symm
  exact Grid.ext hlabels hrows

theorem IsGridOf.width {header columns body : List Int} {texts : HeaderMatrix} {g : Grid}
    (h : IsGridOf cells header columns body texts g) : g.width = columns.length := by
  have hne : texts ≠ [] := by
    rw [← List.length_pos_iff, ← h.headerTexts.length_eq, List.length_pos_iff]
    exact h.headed
  rw [Grid.width, h.labels, length_fillHeader]
  refine HeaderMatrix.width_eq hne fun row hrow => ?_
  obtain ⟨y, -, hcolumns⟩ := exists_of_mem_right h.headerTexts row hrow
  exact hcolumns.length_eq.symm

theorem mem_headerRows_iff :
    y ∈ Grid.headerRows (cells.filter Cell.visible) ↔
      ∃ c ∈ cells, c.visible = true ∧ c.group = .header ∧ c.row = y := by
  rw [headerRows, mem_ascending]
  simp only [List.mem_map, List.mem_filter, beq_iff_eq, and_assoc]

/-- A number is above all of some ascending numbers if it is above the last. -/
theorem forall_lt_iff {numbers : List Int} {last : Int} (h : numbers.Pairwise (· < ·))
    (hlast : numbers.getLast? = some last) : (∀ n ∈ numbers, n < y) ↔ last < y := by
  obtain ⟨init, rfl⟩ := List.getLast?_eq_some_iff.mp hlast
  refine ⟨fun hall => hall last (by simp), fun hlt n hn => ?_⟩
  rcases List.mem_append.mp hn with hn | hn
  · exact ((List.pairwise_append.mp h).2.2 n hn last (by simp)).trans hlt
  · rwa [List.mem_singleton.mp hn]

/-- The grid that is built is the one described. -/
theorem isGridOf_ofVisible {last : Int}
    (hlast : (headerRows (cells.filter Cell.visible)).getLast? = some last) :
    ∃ columns body texts, IsGridOf cells (headerRows (cells.filter Cell.visible)) columns body texts
      (ofVisible (cells.filter Cell.visible) (headerRows (cells.filter Cell.visible)) last) := by
  have hsorted : (headerRows (cells.filter Cell.visible)).Pairwise (· < ·) := pairwise_ascending _
  refine ⟨ascending ((cells.filter Cell.visible).map Cell.col),
    ascending (((cells.filter Cell.visible).map Cell.row).filter (last < ·)),
    headerMatrix _ _ _, ?headed, ⟨hsorted, fun _ => mem_headerRows_iff⟩,
    enumerates_ascending fun x => ?columns, enumerates_ascending fun y => ?body, ?texts, rfl, ?rows⟩
  case headed =>
    intro hnil
    rw [hnil] at hlast
    cases hlast
  case columns =>
    simp only [List.mem_map, List.mem_filter, and_assoc]
  case body =>
    rw [forall_lt_iff hsorted hlast]
    simp only [List.mem_map, List.mem_filter, and_assoc, decide_eq_true_eq]
  all_goals
    refine List.forall₂_map_right_iff.mpr (List.forall₂_same.mpr fun y _ => ?_)
    refine List.forall₂_map_right_iff.mpr (List.forall₂_same.mpr fun x _ => ?_)
    exact ⟨_, isLastAt_cellAt? cells y x, rfl⟩

theorem exists_ofCells?_iff :
    (∃ g, ofCells? cells = .ok g) ↔ ∃ c ∈ cells, c.visible = true ∧ c.group = .header := by
  simp only [ofCells?_eq_ok_iff]
  constructor
  · rintro ⟨g, last, hlast, -⟩
    obtain ⟨c, hc, hvisible, hheader, -⟩ := mem_headerRows_iff.mp (List.mem_of_getLast? hlast)
    exact ⟨c, hc, hvisible, hheader⟩
  · rintro ⟨c, hc, hvisible, hheader⟩
    have hmem : c.row ∈ headerRows (cells.filter Cell.visible) :=
      mem_headerRows_iff.mpr ⟨c, hc, hvisible, hheader, rfl⟩
    obtain ⟨last, hlast⟩ := Option.ne_none_iff_exists'.mp
      (mt List.getLast?_eq_none_iff.mp (List.ne_nil_of_mem hmem))
    exact ⟨_, last, hlast, rfl⟩

theorem ofCells?_eq_error_iff {reason : SkipReason} :
    ofCells? cells = .error reason ↔
      reason = .noHeader ∧ ∀ c ∈ cells, c.visible = true → c.group ≠ .header := by
  have hnone : (∀ c ∈ cells, c.visible = true → c.group ≠ .header) ↔
      ¬ ∃ g, ofCells? cells = .ok g := by
    rw [exists_ofCells?_iff]
    simp only [not_exists, not_and, ne_eq]
  rw [hnone]
  cases hresult : ofCells? cells with
  | ok g =>
      constructor
      · intro herror
        cases herror
      · rintro ⟨-, hfails⟩
        exact absurd ⟨g, rfl⟩ hfails
  | error e =>
      have he : e = .noHeader := by
        simp only [ofCells?] at hresult
        split at hresult <;> cases hresult
        rfl
      rw [he, Except.error.injEq]
      constructor
      · rintro rfl
        refine ⟨rfl, ?_⟩
        rintro ⟨g, hg⟩
        cases hg
      · rintro ⟨rfl, -⟩
        rfl

theorem ofCells?_eq_ok_iff_isGridOf {g : Grid} :
    ofCells? cells = .ok g ↔
      ∃ header columns body texts, IsGridOf cells header columns body texts g := by
  constructor
  · intro hg
    obtain ⟨last, hlast, rfl⟩ := ofCells?_eq_ok_iff.mp hg
    exact ⟨_, isGridOf_ofVisible hlast⟩
  · rintro ⟨header, columns, body, texts, h⟩
    obtain ⟨y, hy⟩ := List.exists_mem_of_ne_nil header h.headed
    obtain ⟨c, hc, hvisible, hheader, -⟩ := (h.headerRows.complete y).mp hy
    obtain ⟨built, hbuilt⟩ := exists_ofCells?_iff.mpr ⟨c, hc, hvisible, hheader⟩
    obtain ⟨last, hlast, rfl⟩ := ofCells?_eq_ok_iff.mp hbuilt
    obtain ⟨_, _, _, h'⟩ := isGridOf_ofVisible hlast
    rw [h.unique h', hbuilt]

/-- Where no two visible cells stand at one position, the grid does not depend on their order. -/
theorem ofCells?_perm {moved : List Cell} (h : moved.Perm cells)
    (hnodup : ((cells.filter Cell.visible).map Cell.position).Nodup) :
    ofCells? moved = ofCells? cells := by
  have hvisible : ∀ cells : List Cell, ofCells? (cells.filter Cell.visible) = ofCells? cells := by
    intro cells
    unfold ofCells?
    rw [List.filter_filter]
    simp only [Bool.and_self]
  have hperm : (moved.filter Cell.visible).Perm (cells.filter Cell.visible) := h.filter _
  rw [← hvisible moved, ← hvisible cells]
  exact ofCells?_congr (fun c => hperm.mem_iff)
    ((hperm.map Cell.position).nodup_iff.mpr hnodup) hnodup

/-- **The grid of listed cells.**  There is none exactly if no visible cell is a header cell, and
there is no other reason for that.  Otherwise the grid is exactly the one with the columns and rows
that occur, each once and ascending, and the last visible cell at each position; it has one label
for each column.  Where no two visible cells stand at one position, another order of the cells gives
the same. -/
theorem ofCells?_describes (cells : List Cell) :
    (∀ reason, ofCells? cells = .error reason ↔
      reason = .noHeader ∧ ∀ c ∈ cells, c.visible = true → c.group ≠ .header) ∧
    ((∃ g, ofCells? cells = .ok g) ↔ ∃ c ∈ cells, c.visible = true ∧ c.group = .header) ∧
    (∀ g, ofCells? cells = .ok g ↔
      ∃ header columns body texts, IsGridOf cells header columns body texts g) ∧
    (∀ header columns body texts g, IsGridOf cells header columns body texts g →
      g.width = columns.length) ∧
    ∀ moved : List Cell, moved.Perm cells →
      ((cells.filter Cell.visible).map Cell.position).Nodup → ofCells? moved = ofCells? cells :=
  ⟨fun _ => ofCells?_eq_error_iff, exists_ofCells?_iff, fun _ => ofCells?_eq_ok_iff_isGridOf,
    fun _ _ _ _ _ h => h.width, fun _ => ofCells?_perm⟩

/-- A table that lists its last row first, with a hidden cell in a row and a column of its own. -/
def scattered : List Cell :=
  [.ofSource "C9" 9 3 .body "7" "" "" true, .ofSource "A1" 1 1 .header "شرح" "" "" true,
    .ofSource "B5" 5 2 .body "4" "" "" false, .ofSource "C1" 1 3 .body "1402" "" "" true,
    .ofSource "A4" 4 1 .body "Sales" "" "" true]

/-- The hidden cell has no place in the grid, and the listing may as well be turned around. -/
theorem ofCells?_describes_scattered : ∃ g header columns body texts,
    ofCells? scattered = .ok g ∧ IsGridOf scattered header columns body texts g ∧
      g.labels = [.single "شرح", .single "1402"] ∧ g.width = columns.length ∧
      scattered.reverse.Perm scattered ∧
      ((scattered.filter Cell.visible).map Cell.position).Nodup ∧
      ofCells? scattered.reverse = .ok g := by
  obtain ⟨-, -, hdescribes, hwidth, hperm⟩ := ofCells?_describes scattered
  have hg : ofCells? scattered = .ok _ := ofCells?_eq_ok_iff.mpr ⟨1, by decide +kernel, rfl⟩
  obtain ⟨header, columns, body, texts, h⟩ := (hdescribes _).mp hg
  have hreverse : scattered.reverse.Perm scattered := List.reverse_perm scattered
  have hnodup : ((scattered.filter Cell.visible).map Cell.position).Nodup := by decide +kernel
  exact ⟨_, header, columns, body, texts, hg, h, by decide +kernel, hwidth _ _ _ _ _ h, hreverse,
    hnodup, (hperm _ hreverse hnodup).trans hg⟩

end Grid

end StatementTables
