import Mathlib.Data.Int.Order.Basic
import Mathlib.Data.List.ReduceOption
import StatementTables.Proofs.Table.Grid

/-! # The texts of a filled header

Filling a header gives a row of a column the last text at or above it (`textDown`), and of these the
last one at or left of the column (`textAcross`, `fillHeader_eq`).  So every level of a label is
empty or a text of the header (`mem_levels`).  Where rows and columns have ascending numbers, the
same is said of the numbers (`upTo`, `fillHeader_positions`): which columns a header has then
matters to a label only as far as they have a text. -/

namespace StatementTables

namespace HeaderMatrix

/-! ### The last text -/

/-- The last text of a list with gaps. -/
def lastText (xs : List (Option String)) : Option String :=
  xs.reduceOption.getLast?

theorem lastText_cons (x : Option String) (xs : List (Option String)) :
    lastText (x :: xs) = (lastText xs).or x := by
  unfold lastText
  cases x with
  | none => rw [List.reduceOption_cons_of_none, Option.or_none]
  | some text =>
      rw [List.reduceOption_cons_of_some, List.getLast?_cons]
      cases xs.reduceOption.getLast? <;> rfl

theorem lastText_singleton (x : Option String) : lastText [x] = x := by
  rw [lastText_cons]
  rfl

theorem lastText_map_eq_none_iff {α : Type} {numbers : List α} {text : α → Option String} :
    lastText (numbers.map text) = none ↔ ∀ m ∈ numbers, text m = none := by
  induction numbers with
  | nil => simp [lastText]
  | cons first rest ih =>
      rw [List.map_cons, lastText_cons, Option.or_eq_none_iff, ih, List.forall_mem_cons, and_comm]

theorem mem_of_lastText {xs : List (Option String)} {text : String}
    (h : lastText xs = some text) : some text ∈ xs :=
  List.reduceOption_mem_iff.mp (List.mem_of_getLast? h)

/-- The last text at or above a row, in a column. -/
def textDown (matrix : HeaderMatrix) (row col : Nat) : Option String :=
  lastText ((matrix.take (row + 1)).map fun r => r[col]?.join)

/-- The last text at or left of a column, where gaps below a text are filled with it. -/
def textAcross (matrix : HeaderMatrix) (row col : Nat) : Option String :=
  lastText ((List.range (col + 1)).map (textDown matrix row))

/-! ### Filling -/

theorem textDown_cons (first : List (Option String)) (rows : HeaderMatrix) (row col : Nat) :
    textDown (first :: rows) (row + 1) col = (textDown rows row col).or first[col]?.join := by
  unfold textDown
  rw [List.take_succ_cons, List.map_cons, lastText_cons]

theorem fillDown_text {n : Nat} {above : List (Option String)} {matrix : HeaderMatrix}
    (habove : above.length = n) (h : ∀ row ∈ matrix, row.length = n) {row : Nat}
    {filled : List (Option String)} (hfilled : (fillDown above matrix)[row]? = some filled)
    {col : Nat} (hcol : col < n) :
    filled[col]?.join = (textDown matrix row col).or above[col]?.join := by
  induction matrix generalizing above row with
  | nil => cases hfilled
  | cons first rows ih =>
      have hfirst : first.length = n := h first List.mem_cons_self
      have hzip : (first.zipWith (fun here up => here <|> up) above)[col]?.join =
          first[col]?.join.or above[col]?.join := by
        rw [List.getElem?_zipWith, List.getElem?_eq_getElem (hfirst ▸ hcol),
          List.getElem?_eq_getElem (habove ▸ hcol)]
        exact Option.orElse_eq_or
      cases row with
      | zero =>
          cases hfilled
          show _ = (lastText [first[col]?.join]).or _
          rw [hzip, lastText_singleton]
      | succ row =>
          have hlength : (first.zipWith (fun here up => here <|> up) above).length = n := by
            rw [List.length_zipWith, hfirst, habove, Nat.min_self]
          rw [ih hlength (fun r hr => h r (List.mem_cons_of_mem _ hr)) hfilled, hzip,
            textDown_cons, Option.or_assoc]

theorem fillAcross_text {left : Option String} {row : List (Option String)} {col : Nat}
    (hcol : col < row.length) :
    (fillAcross left row)[col]?.join = (lastText (row.take (col + 1))).or left := by
  induction row generalizing left col with
  | nil => cases hcol
  | cons x xs ih =>
      cases col with
      | zero =>
          show (x <|> left) = (lastText [x]).or left
          rw [lastText_singleton]
          exact Option.orElse_eq_or
      | succ col =>
          have hleft : (x <|> left) = x.or left := Option.orElse_eq_or
          show (fillAcross (x <|> left) xs)[col]?.join = _
          rw [ih (Nat.lt_of_succ_lt_succ hcol), List.take_succ_cons, lastText_cons,
            Option.or_assoc, hleft]

theorem padRow_entry (n : Nat) (row : List (Option String)) (col : Nat) :
    (padRow n row)[col]?.join = row[col]?.join := by
  unfold padRow
  rw [List.getElem?_append]
  split
  · rfl
  · rename_i hcol
    rw [List.getElem?_replicate, List.getElem?_eq_none (Nat.le_of_not_lt hcol)]
    split <;> rfl

theorem textDown_padded (matrix : HeaderMatrix) (n row col : Nat) :
    textDown (matrix.map (padRow n)) row col = textDown matrix row col := by
  unfold textDown
  rw [← List.map_take, List.map_map]
  exact congrArg lastText (List.map_congr_left fun r _ => padRow_entry n r col)

theorem fill_text {matrix : HeaderMatrix} {row col : Nat} {filled : List (Option String)}
    (hfilled : matrix.fill[row]? = some filled) (hcol : col < matrix.width) :
    filled[col]?.join = textAcross matrix row col := by
  unfold fill at hfilled
  rw [List.getElem?_map, Option.map_eq_some_iff] at hfilled
  obtain ⟨down, hdown, rfl⟩ := hfilled
  have hwidth : down.length = matrix.width :=
    fillDown_width List.length_replicate padded_width down (List.mem_of_getElem? hdown)
  rw [fillAcross_text (hwidth ▸ hcol), Option.or_none]
  refine congrArg lastText (List.ext_getElem? fun i => ?_)
  rw [List.getElem?_take, List.getElem?_map]
  split
  · rename_i hi
    have hi' : i < matrix.width := Nat.lt_of_lt_of_le hi hcol
    have htext := fillDown_text List.length_replicate padded_width hdown hi'
    rw [List.getElem?_replicate_of_lt hi', textDown_padded, Option.join_some, Option.or_none,
      List.getElem?_eq_getElem (hwidth ▸ hi'), Option.join_some] at htext
    rw [List.getElem?_range hi, List.getElem?_eq_getElem (hwidth ▸ hi'), htext]
    rfl
  · rename_i hi
    rw [List.getElem?_eq_none (by rw [List.length_range]; omega)]
    rfl

theorem textAt_eq (row : List (Option String)) (col : Nat) :
    textAt row col = row[col]?.join.getD "" := by
  unfold textAt
  cases row[col]? <;> rfl

end HeaderMatrix

open HeaderMatrix

/-- **The labels of a header.**  Every row gives each column one level. -/
theorem fillHeader_eq (matrix : HeaderMatrix) :
    fillHeader matrix = (List.range matrix.width).map fun col =>
      .ofLevels ((List.range matrix.length).map fun row =>
        (textAcross matrix row col).getD "") := by
  unfold fillHeader
  refine List.map_congr_left fun col hcol => congrArg ColumnLabel.ofLevels ?_
  refine List.ext_getElem? fun row => ?_
  rw [List.getElem?_map, List.getElem?_map]
  by_cases hrow : row < matrix.length
  · rw [List.getElem?_range hrow, List.getElem?_eq_getElem ((length_fill matrix).symm ▸ hrow)]
    have htext := fill_text (List.getElem?_eq_getElem ((length_fill matrix).symm ▸ hrow))
      (List.mem_range.mp hcol)
    exact congrArg some ((textAt_eq _ col).trans (htext ▸ rfl))
  · rw [List.getElem?_eq_none (by rw [length_fill]; omega),
      List.getElem?_eq_none (by rw [List.length_range]; omega)]
    rfl

theorem fillHeader_level {matrix : HeaderMatrix} {row column : Nat} (hrow : row < matrix.length)
    (hcolumn : column < matrix.width) :
    ∃ label, (fillHeader matrix)[column]? = some label ∧
      label.toLevels[row]? = some ((textAcross matrix row column).getD "") := by
  refine ⟨.ofLevels ((List.range matrix.length).map fun r =>
    (textAcross matrix r column).getD ""), ?_, ?_⟩
  · rw [fillHeader_eq, List.getElem?_map, List.getElem?_range hcolumn]
    rfl
  · rw [ColumnLabel.toLevels_ofLevels, List.getElem?_map, List.getElem?_range hrow]
    rfl

/-- Every level of a label is empty or a text of the header. -/
theorem mem_levels {matrix : HeaderMatrix} {label : ColumnLabel} (h : label ∈ fillHeader matrix)
    {level : String} (hlevel : level ∈ label.toLevels) :
    level = "" ∨ ∃ row ∈ matrix, some level ∈ row := by
  rw [fillHeader_eq] at h
  obtain ⟨col, -, rfl⟩ := List.mem_map.mp h
  rw [ColumnLabel.toLevels_ofLevels] at hlevel
  obtain ⟨row, -, rfl⟩ := List.mem_map.mp hlevel
  cases htext : textAcross matrix row col with
  | none => exact .inl rfl
  | some text =>
      obtain ⟨c, -, hdown⟩ := List.mem_map.mp (mem_of_lastText htext)
      obtain ⟨r, hr, hentry⟩ := List.mem_map.mp (mem_of_lastText hdown)
      exact .inr ⟨r, List.mem_of_mem_take hr,
        List.mem_of_getElem? (Option.join_eq_some_iff.mp hentry)⟩

/-! ### Rows and columns with numbers -/

namespace HeaderMatrix

/-- The last text at a number up to `n`. -/
def upTo (numbers : List Int) (text : Int → Option String) (n : Int) :
    Option String :=
  lastText ((numbers.filter (· ≤ n)).map text)

theorem lastText_map_eq_some_iff {α : Type} [Preorder α] {numbers : List α}
    (h : numbers.Pairwise (· < ·)) {text : α → Option String} {t : String} :
    lastText (numbers.map text) = some t ↔
      ∃ m ∈ numbers, text m = some t ∧ ∀ later ∈ numbers, m < later → text later = none := by
  induction numbers with
  | nil => simp [lastText]
  | cons first rest ih =>
      obtain ⟨hfirst, hrest⟩ := List.pairwise_cons.mp h
      rw [List.map_cons, lastText_cons, Option.or_eq_some_iff, ih hrest]
      constructor
      · rintro (⟨m, hm, htext, hlast⟩ | ⟨hnone, htext⟩)
        · refine ⟨m, List.mem_cons_of_mem _ hm, htext, fun later hlater hlt => ?_⟩
          rcases List.mem_cons.mp hlater with rfl | hlater
          · exact absurd hlt (lt_asymm (hfirst m hm))
          · exact hlast later hlater hlt
        · refine ⟨first, List.mem_cons_self, htext, fun later hlater hlt => ?_⟩
          rcases List.mem_cons.mp hlater with rfl | hlater
          · exact absurd hlt (lt_irrefl later)
          · exact lastText_map_eq_none_iff.mp hnone later hlater
      · rintro ⟨m, hm, htext, hlast⟩
        rcases List.mem_cons.mp hm with rfl | hm
        · right
          refine ⟨lastText_map_eq_none_iff.mpr fun later hlater => ?_, htext⟩
          exact hlast later (List.mem_cons_of_mem _ hlater) (hfirst later hlater)
        · left
          exact ⟨m, hm, htext, fun later hlater => hlast later (List.mem_cons_of_mem _ hlater)⟩

theorem upTo_congr {numbers : List Int} {text text' : Int → Option String} {n : Int}
    (h : ∀ m ∈ numbers, text m = text' m) : upTo numbers text n = upTo numbers text' n := by
  unfold upTo
  rw [List.map_congr_left fun m hm => h m (List.mem_of_mem_filter hm)]

theorem exists_of_upTo_ne_none {numbers : List Int} {text : Int → Option String} {n : Int}
    (h : upTo numbers text n ≠ none) : ∃ m ∈ numbers, m ≤ n ∧ text m ≠ none := by
  obtain ⟨t, ht⟩ := Option.ne_none_iff_exists'.mp h
  obtain ⟨m, hm, htext⟩ := List.mem_map.mp (mem_of_lastText ht)
  obtain ⟨hm, hle⟩ := List.mem_filter.mp hm
  exact ⟨m, hm, by simpa using hle, by rw [htext]; exact Option.some_ne_none t⟩

theorem upTo_ne_none {numbers : List Int} {text : Int → Option String} {m n : Int}
    (hm : m ∈ numbers) (hle : m ≤ n) (h : text m ≠ none) : upTo numbers text n ≠ none := by
  intro hnone
  exact h (lastText_map_eq_none_iff.mp hnone m (List.mem_filter.mpr ⟨hm, by simpa using hle⟩))

/-- Numbers can be left out if a later number that stays has a text wherever one of them has. -/
theorem upTo_filter {numbers : List Int} (hnumbers : numbers.Pairwise (· < ·)) {keep : Int → Bool}
    {text : Int → Option String} {n : Int}
    (h : ∀ d ∈ numbers, d ≤ n → keep d = false → text d ≠ none →
      ∃ k ∈ numbers, d < k ∧ k ≤ n ∧ keep k = true ∧ text k ≠ none) :
    upTo (numbers.filter keep) text n = upTo numbers text n := by
  have hkept : ((numbers.filter keep).filter (· ≤ n)).Pairwise (· < ·) :=
    (hnumbers.filter _).filter _
  apply Option.ext
  intro t
  unfold upTo
  rw [lastText_map_eq_some_iff hkept, lastText_map_eq_some_iff (hnumbers.filter _)]
  simp only [List.mem_filter, decide_eq_true_eq]
  constructor
  · rintro ⟨m, ⟨⟨hm, hkeep⟩, hle⟩, htext, hlast⟩
    refine ⟨m, ⟨hm, hle⟩, htext, fun later ⟨hlater, hlater'⟩ hlt => ?_⟩
    cases hkeep' : keep later with
    | true => exact hlast later ⟨⟨hlater, hkeep'⟩, hlater'⟩ hlt
    | false =>
        by_contra hsome
        obtain ⟨k, hk, hdk, hkn, hkeepk, htextk⟩ := h later hlater hlater' hkeep' hsome
        exact htextk (hlast k ⟨⟨hk, hkeepk⟩, hkn⟩ (by omega))
  · rintro ⟨m, ⟨hm, hle⟩, htext, hlast⟩
    have hkeep : keep m = true := by
      by_contra hdropped
      obtain ⟨k, hk, hmk, hkn, -, htextk⟩ :=
        h m hm hle (by simpa using hdropped) (by rw [htext]; exact Option.some_ne_none t)
      exact htextk (hlast k ⟨hk, hkn⟩ hmk)
    exact ⟨m, ⟨⟨hm, hkeep⟩, hle⟩, htext, fun later ⟨⟨hlater, _⟩, hlater'⟩ =>
      hlast later ⟨hlater, hlater'⟩⟩

theorem filter_le_of_ascending {numbers : List Int} (h : numbers.Pairwise (· < ·)) {i : Nat}
    {n : Int} (hn : numbers[i]? = some n) : numbers.filter (· ≤ n) = numbers.take (i + 1) := by
  induction numbers generalizing i with
  | nil => cases hn
  | cons first rest ih =>
      obtain ⟨hfirst, hrest⟩ := List.pairwise_cons.mp h
      cases i with
      | zero =>
          cases hn
          have hnone : rest.filter (· ≤ n) = [] := by
            refine List.filter_eq_nil_iff.mpr fun m hm => ?_
            simpa using hfirst m hm
          rw [List.filter_cons_of_pos (by simp), hnone]
          rfl
      | succ i =>
          have hle : first ≤ n := Int.le_of_lt (hfirst n (List.mem_of_getElem? hn))
          rw [List.filter_cons_of_pos (by simpa using hle), ih hrest hn, List.take_succ_cons]

section positions
variable {rows columns : List Int} {text : Int → Int → Option String}

theorem textDown_positions (hrows : rows.Pairwise (· < ·)) {r i : Nat} {y x : Int}
    (hr : rows[r]? = some y) (hi : columns[i]? = some x) :
    textDown (rows.map fun y => columns.map fun x => text y x) r i =
      upTo rows (fun y' => text y' x) y := by
  unfold textDown upTo
  rw [filter_le_of_ascending hrows hr, ← List.map_take, List.map_map]
  refine congrArg lastText (List.map_congr_left fun y' _ => ?_)
  show (columns.map fun x => text y' x)[i]?.join = text y' x
  rw [List.getElem?_map, hi]
  rfl

theorem textAcross_positions (hrows : rows.Pairwise (· < ·)) (hcolumns : columns.Pairwise (· < ·))
    {r j : Nat} {y x : Int} (hr : rows[r]? = some y) (hj : columns[j]? = some x) :
    textAcross (rows.map fun y => columns.map fun x => text y x) r j =
      upTo columns (fun x' => upTo rows (fun y' => text y' x') y) x := by
  unfold textAcross
  rw [upTo.eq_def columns, filter_le_of_ascending hcolumns hj]
  refine congrArg lastText (List.ext_getElem? fun i => ?_)
  rw [List.getElem?_map, List.getElem?_map, List.getElem?_take]
  split
  · rename_i hi
    have hlength : i < columns.length :=
      Nat.lt_of_lt_of_le hi (List.getElem?_eq_some_iff.mp hj).1
    rw [List.getElem?_range hi, List.getElem?_eq_getElem hlength]
    exact congrArg some (textDown_positions hrows hr (List.getElem?_eq_getElem hlength))
  · rename_i hi
    rw [List.getElem?_eq_none (by rw [List.length_range]; omega)]
    rfl

end positions

end HeaderMatrix

/-- The labels of a header whose rows and columns have ascending numbers. -/
theorem fillHeader_positions {rows columns : List Int} {text : Int → Int → Option String}
    (hrows : rows.Pairwise (· < ·)) (hcolumns : columns.Pairwise (· < ·)) (hne : rows ≠ []) :
    fillHeader (rows.map fun y => columns.map fun x => text y x) =
      columns.map fun x => .ofLevels (rows.map fun y =>
        (upTo columns (fun x' => upTo rows (fun y' => text y' x') y) x).getD "") := by
  have hwidth : width (rows.map fun y => columns.map fun x => text y x) = columns.length :=
    width_eq (mt List.map_eq_nil_iff.mp hne) (by simp)
  rw [fillHeader_eq, hwidth]
  refine List.ext_getElem (by simp) fun j hj hj' => ?_
  rw [List.getElem_map, List.getElem_map, List.getElem_range]
  refine congrArg ColumnLabel.ofLevels (List.ext_getElem (by simp) fun r hr hr' => ?_)
  rw [List.length_map] at hj' hr'
  rw [List.getElem_map, List.getElem_map, List.getElem_range]
  exact congrArg (·.getD "") (textAcross_positions hrows hcolumns (List.getElem?_eq_getElem hr')
    (List.getElem?_eq_getElem hj'))

end StatementTables
