import Mathlib.Data.Nat.Basic
import Mathlib.Order.Bounds.Defs
import StatementTables.Proofs.Table.Header

/-! # What filling makes of a header

The level of a column in a row is found by two scans that each keep the last text they meet
(`IsLastText`): one down the column to the row (`textDown_eq_some_iff`), and one along the row, over
what the first has found, to the column (`getD_textAcross_cases`).  A header with a text in every
slot is final (`fill_of_full`), and so are the levels of a header (`fillHeader_levelMatrix`). -/

namespace StatementTables

namespace HeaderMatrix

/-! ### The last text up to a number -/

/-- The text at a place of a header; nothing for a gap and beyond the end of a row. -/
def given? (matrix : HeaderMatrix) (row col : Nat) : Option String :=
  (matrix[row]?.getD [])[col]?.join

/-- Of the texts that the numbers up to `n` have, `t` is that of the last one. -/
def IsLastText (text : Nat → Option String) (n : Nat) (t : String) : Prop :=
  ∃ m ≤ n, text m = some t ∧ ∀ later, m < later → later ≤ n → text later = none

section last
variable {text : Nat → Option String} {n : Nat}

theorem lastText_range_eq_some_iff {t : String} :
    lastText ((List.range (n + 1)).map text) = some t ↔ IsLastText text n t := by
  rw [lastText_map_eq_some_iff List.pairwise_lt_range]
  simp only [List.mem_range, Nat.lt_succ_iff, IsLastText]
  constructor
  · rintro ⟨m, hm, htext, hlater⟩
    exact ⟨m, hm, htext, fun later hlt hle => hlater later hle hlt⟩
  · rintro ⟨m, hm, htext, hlater⟩
    exact ⟨m, hm, htext, fun later hle hlt => hlater later hlt hle⟩

theorem lastText_range_eq_none_iff :
    lastText ((List.range (n + 1)).map text) = none ↔ ∀ m ≤ n, text m = none := by
  rw [lastText_map_eq_none_iff]
  simp only [List.mem_range, Nat.lt_succ_iff]

end last

variable {matrix : HeaderMatrix} {row : Nat}

theorem textDown_eq_some_iff (hrow : row < matrix.length) {col : Nat} {t : String} :
    textDown matrix row col = some t ↔ IsLastText (given? matrix · col) row t := by
  rw [← lastText_range_eq_some_iff]
  have hrows : (matrix.take (row + 1)).map (fun r => r[col]?.join) =
      (List.range (row + 1)).map (given? matrix · col) := by
    refine List.ext_getElem (by simp; omega) fun i hi _ => ?_
    rw [List.length_map, List.length_take] at hi
    have hi' : i < matrix.length := by omega
    simp only [List.getElem_map, List.getElem_take, List.getElem_range]
    unfold given?
    rw [List.getElem?_eq_getElem hi', Option.getD_some]
  unfold textDown
  rw [hrows]

/-- The level of a place: the last text found in its row, of those found in the columns up to it. -/
theorem getD_textAcross_cases (matrix : HeaderMatrix) (row col : Nat) :
    IsLastText (textDown matrix row) col ((textAcross matrix row col).getD "") ∨
      (textAcross matrix row col).getD "" = "" ∧ ∀ c ≤ col, textDown matrix row c = none := by
  cases htext : textAcross matrix row col with
  | some t => exact .inl (lastText_range_eq_some_iff.mp htext)
  | none => exact .inr ⟨rfl, lastText_range_eq_none_iff.mp htext⟩

/-! ### Headers without gaps -/

/-- Every row has a text in each of `n` columns. -/
def Full (n : Nat) (matrix : HeaderMatrix) : Prop :=
  ∀ row ∈ matrix, row.length = n ∧ ∀ x ∈ row, x.isSome = true

theorem fillAcross_of_full {row : List (Option String)} (h : ∀ x ∈ row, x.isSome = true)
    (left : Option String) : fillAcross left row = row := by
  induction row generalizing left with
  | nil => rfl
  | cons x xs ih =>
      obtain ⟨t, rfl⟩ := Option.isSome_iff_exists.mp (h x List.mem_cons_self)
      exact congrArg (some t :: ·) (ih (fun y hy => h y (List.mem_cons_of_mem _ hy)) (some t))

theorem zipWith_of_full {row above : List (Option String)} (hlength : row.length = above.length)
    (h : ∀ x ∈ row, x.isSome = true) : row.zipWith (fun here up => here <|> up) above = row := by
  refine List.ext_getElem (by rw [List.length_zipWith]; omega) fun i hi hi' => ?_
  obtain ⟨t, ht⟩ := Option.isSome_iff_exists.mp (h row[i] (List.getElem_mem hi'))
  rw [List.getElem_zipWith, ht]
  rfl

theorem fillDown_of_full {n : Nat} (h : Full n matrix) {above : List (Option String)}
    (habove : above.length = n) : fillDown above matrix = matrix := by
  induction matrix generalizing above with
  | nil => rfl
  | cons first rows ih =>
      obtain ⟨hlength, htexts⟩ := h first List.mem_cons_self
      rw [fillDown, zipWith_of_full (hlength.trans habove.symm) htexts,
        ih (fun row hrow => h row (List.mem_cons_of_mem _ hrow)) hlength]

theorem padRow_of_length {n : Nat} {row : List (Option String)} (h : row.length = n) :
    padRow n row = row := by
  unfold padRow
  rw [h, Nat.sub_self, List.replicate_zero, List.append_nil]

/-- Filling leaves a header without gaps as it is. -/
theorem fill_of_full {n : Nat} (h : Full n matrix) : matrix.fill = matrix := by
  by_cases hne : matrix = []
  · rw [hne]
    rfl
  have hwidth : matrix.width = n := width_eq hne fun row hrow => (h row hrow).1
  have hpad : matrix.map (padRow n) = matrix :=
    List.map_congr_left (fun row hrow => padRow_of_length (h row hrow).1) |>.trans (List.map_id _)
  unfold fill
  dsimp only
  rw [hwidth, hpad, fillDown_of_full h List.length_replicate]
  exact List.map_congr_left (fun row hrow => fillAcross_of_full (h row hrow).2 none)
    |>.trans (List.map_id _)

/-- The header whose columns have the levels of some labels, in `rows` rows. -/
def levelMatrix (rows : Nat) (labels : List ColumnLabel) : HeaderMatrix :=
  (List.range rows).map fun row => labels.map fun label => label.toLevels[row]?

section levels
variable {rows : Nat} {labels : List ColumnLabel}
  (h : ∀ label ∈ labels, label.toLevels.length = rows)
include h

theorem full_levelMatrix : Full labels.length (levelMatrix rows labels) := by
  intro entries hentries
  obtain ⟨row, hrow, rfl⟩ := List.mem_map.mp hentries
  refine ⟨List.length_map _, fun x hx => ?_⟩
  obtain ⟨label, hlabel, rfl⟩ := List.mem_map.mp hx
  have hlt : row < label.toLevels.length := (h label hlabel).symm ▸ List.mem_range.mp hrow
  rw [List.getElem?_eq_getElem hlt]
  rfl

theorem width_levelMatrix (hrows : 0 < rows) : (levelMatrix rows labels).width = labels.length := by
  refine width_eq (fun hnil => ?_) fun row hrow => (full_levelMatrix h row hrow).1
  have hlength := congrArg List.length hnil
  rw [levelMatrix, List.length_map, List.length_range] at hlength
  exact Nat.ne_of_gt hrows hlength

theorem column_levelMatrix {col : Nat} {label : ColumnLabel} (hlabel : labels[col]? = some label) :
    ((levelMatrix rows labels).map fun row => textAt row col) = label.toLevels := by
  have hlength : label.toLevels.length = rows := h label (List.mem_of_getElem? hlabel)
  refine List.ext_getElem (by simp [levelMatrix, hlength]) fun row hrow hrow' => ?_
  simp only [levelMatrix, List.getElem_map, List.getElem_range, textAt_eq, List.getElem?_map,
    hlabel, Option.map_some, Option.join_some, List.getElem?_eq_getElem hrow', Option.getD_some]

end levels

end HeaderMatrix

open HeaderMatrix

theorem ofLevels_eq_single_iff {levels : List String} :
    (∃ text, ColumnLabel.ofLevels levels = .single text) ↔ levels.length = 1 := by
  rw [List.length_eq_one_iff]
  unfold ColumnLabel.ofLevels
  split
  · simp
  · rename_i hne
    exact ⟨nofun, fun ⟨text, htext⟩ => absurd htext (hne text)⟩

theorem getElem_fillHeader {matrix : HeaderMatrix} {col : Nat}
    (h : col < (fillHeader matrix).length) :
    (fillHeader matrix)[col] = .ofLevels (matrix.fill.map fun row => textAt row col) := by
  simp only [fillHeader, List.getElem_map, List.getElem_range]

/-- The levels of a header, as a header, give the same labels again. -/
theorem fillHeader_levelMatrix (matrix : HeaderMatrix) :
    fillHeader (levelMatrix matrix.length (fillHeader matrix)) = fillHeader matrix := by
  have hlevels : ∀ label ∈ fillHeader matrix, label.toLevels.length = matrix.length :=
    fun label hlabel => fillHeader_levels hlabel
  by_cases hne : matrix = []
  · rw [hne]
    rfl
  have hwidth := width_levelMatrix hlevels (List.length_pos_of_ne_nil hne)
  refine List.ext_getElem (by rw [length_fillHeader, hwidth]) fun col hcol hcol' => ?_
  have hcolumn := column_levelMatrix hlevels (List.getElem?_eq_getElem hcol')
  rw [getElem_fillHeader hcol', ColumnLabel.toLevels_ofLevels] at hcolumn
  rw [getElem_fillHeader hcol, fill_of_full (full_levelMatrix hlevels), hcolumn,
    getElem_fillHeader hcol']

/-- **The labels of a header.**  There is one for each column of the widest row, with a level for
each row, and it is a single text exactly where there is one row.  With the last text of a column
at or above a row called the text there, the level of a row is the text in the last column, up to
the label's own, that has one there; without such a column it is empty.  The levels are final:
filled again, as a header, they stay as they are and give the same labels. -/
theorem fillHeader_fills (matrix : HeaderMatrix) :
    ((fillHeader matrix).length = matrix.width ∧
      IsLeast {n | ∀ row ∈ matrix, row.length ≤ n} matrix.width) ∧
    (∀ label ∈ fillHeader matrix, label.toLevels.length = matrix.length ∧
      ((∃ text, label = .single text) ↔ matrix.length = 1)) ∧
    (∀ row < matrix.length,
      (∀ col t, textDown matrix row col = some t ↔ IsLastText (given? matrix · col) row t) ∧
      ∀ col < matrix.width, ∃ label level, (fillHeader matrix)[col]? = some label ∧
        label.toLevels[row]? = some level ∧
          (IsLastText (textDown matrix row) col level ∨
            level = "" ∧ ∀ c ≤ col, textDown matrix row c = none)) ∧
    (levelMatrix matrix.length (fillHeader matrix)).fill =
        levelMatrix matrix.length (fillHeader matrix) ∧
      fillHeader (levelMatrix matrix.length (fillHeader matrix)) = fillHeader matrix := by
  refine ⟨⟨length_fillHeader matrix, fun _ => length_le_width, fun _ => width_le⟩,
    fun label hlabel => ⟨fillHeader_levels hlabel, ?_⟩,
    fun row hrow => ⟨fun col t => textDown_eq_some_iff hrow, fun col hcol => ?_⟩, ?_,
    fillHeader_levelMatrix matrix⟩
  · obtain ⟨col, -, rfl⟩ := List.mem_map.mp hlabel
    rw [ofLevels_eq_single_iff, List.length_map, length_fill]
  · obtain ⟨label, hlabel, hlevel⟩ := fillHeader_level hrow hcol
    exact ⟨label, _, hlabel, hlevel, getD_textAcross_cases matrix row col⟩
  · exact fill_of_full (full_levelMatrix fun label hlabel => fillHeader_levels hlabel)

example : (fillHeader [[some "1402", none, some "1403"], [none, some "Q2"]]).map
    ColumnLabel.toLevels = [["1402", "1402"], ["1402", "Q2"], ["1403", "1403"]] := by decide

end StatementTables
