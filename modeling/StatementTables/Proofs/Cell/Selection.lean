import StatementTables.Proofs.Cell.Order
import StatementTables.Proofs.Table.Segment

/-! # Which cells are left

The preparation goes through a table pass by pass, and each pass sees only what those before it have
left.  Told by the places of the listing, a cell is left if no earlier one agrees with it (`IsNew`),
no column to the left says what its column says (`IsLeftmost`), no later cell takes its position
(`IsLast`) and its column does not compare periods (`IsPlain`), where each of the last three looks
at the cells alone that meet the conditions before it.  Nothing else is left, the order is that of
the listing, and only the values of empty form controls change (`prepareCells_eq_selection`). -/

namespace StatementTables

namespace Preparation

/-! ### The conditions -/

section conditions
variable (rules : Rules) (cells : List Cell) (e : Cell × Nat)

/-- No cell that is listed before agrees with this one in everything but its value. -/
def IsNew : Prop :=
  ∀ f ∈ cells.zipIdx, f.2 < e.2 → f.1.key ≠ e.1.key

instance : Decidable (IsNew cells e) :=
  inferInstanceAs (Decidable (∀ f ∈ cells.zipIdx, _))

/-- The new cells with their places. -/
def news : List (Cell × Nat) :=
  cells.zipIdx.filter fun e => decide (IsNew cells e)

/-- No column to the left has the same texts in the same rows. -/
def IsLeftmost : Prop :=
  ∀ f ∈ news cells, f.1.col < e.1.col →
    content ((news cells).map Prod.fst) f.1.col ≠ content ((news cells).map Prod.fst) e.1.col

instance : Decidable (IsLeftmost cells e) :=
  inferInstanceAs (Decidable (∀ f ∈ news cells, _))

/-- No cell that is listed later stands at the same position. -/
def IsLast : Prop :=
  ∀ f ∈ news cells, IsLeftmost cells f → e.2 < f.2 → f.1.position ≠ e.1.position

instance : Decidable (IsLast cells e) :=
  inferInstanceAs (Decidable (∀ f ∈ news cells, _))

/-- No header cell of the same column compares periods. -/
def IsPlain : Prop :=
  ∀ f ∈ news cells, IsLeftmost cells f → IsLast cells f → f.1.col = e.1.col →
    f.1.group = .header → rules.isDeviation f.1.raw = false

instance : Decidable (IsPlain rules cells e) :=
  inferInstanceAs (Decidable (∀ f ∈ news cells, _))

end conditions

/-! ### Pass by pass -/

section passes
variable {entries : List (Cell × Nat)} (h : entries.Pairwise fun e f => e.2 < f.2)
include h

/-- Of cells in the order of their places the last of each position are those with no later cell of
the same position. -/
theorem keepLastPerPosition_eq_filter :
    keepLastPerPosition (entries.map Prod.fst) = (entries.filter fun e =>
      decide (∀ f ∈ entries, e.2 < f.2 → f.1.position ≠ e.1.position)).map Prod.fst := by
  induction entries with
  | nil => rfl
  | cons first rest ih =>
      obtain ⟨hlater, hrest⟩ := List.pairwise_cons.mp h
      have hfirst : (∀ f ∈ first :: rest, first.2 < f.2 → f.1.position ≠ first.1.position) ↔
          ¬ (rest.map Prod.fst).any first.1.samePosition = true := by
        rw [List.forall_mem_cons, List.any_map, List.any_eq_true, not_exists]
        constructor
        · rintro ⟨-, hlast⟩ f ⟨hf, hsame⟩
          exact hlast f hf (hlater f hf) (Cell.samePosition_iff.mp hsame).symm
        · intro hlast
          refine ⟨fun hlt => absurd hlt (Nat.lt_irrefl _), fun f hf _ hposition => ?_⟩
          exact hlast f ⟨hf, Cell.samePosition_iff.mpr hposition.symm⟩
      have htail : (rest.filter fun e =>
            decide (∀ f ∈ first :: rest, e.2 < f.2 → f.1.position ≠ e.1.position)) =
          rest.filter fun e => decide (∀ f ∈ rest, e.2 < f.2 → f.1.position ≠ e.1.position) := by
        refine List.filter_congr fun e he => decide_eq_decide.mpr ?_
        rw [List.forall_mem_cons]
        exact and_iff_right fun hlt => absurd hlt (Nat.lt_asymm (hlater e he))
      rw [List.map_cons, keepLastPerPosition, List.filter_cons, htail, ih hrest]
      by_cases hsame : (rest.map Prod.fst).any first.1.samePosition = true
      · rw [if_pos hsame, if_neg fun hlast => hfirst.mp (of_decide_eq_true hlast) hsame]
      · rw [if_neg hsame, if_pos (decide_eq_true (hfirst.mpr hsame)), List.map_cons]

end passes

/-- The cells of the columns with the content of none to their left. -/
theorem dropRepeatedColumns_eq_filter (cells : List Cell) :
    dropRepeatedColumns cells = cells.filter fun c =>
      decide (∀ d ∈ cells, d.col < c.col → content cells d.col ≠ content cells c.col) := by
  rw [dropRepeatedColumns_eq]
  refine List.filter_congr fun c _ => ?_
  rw [Bool.eq_iff_iff, Bool.not_eq_true', ← Bool.not_eq_true, repeatsColumn_iff,
    decide_eq_true_iff]
  constructor
  · intro hnew d hd hlt hsame
    exact hnew ⟨d.col, mem_ascending.mpr (List.mem_map_of_mem hd), hlt, hsame⟩
  · rintro hnew ⟨x, hx, hlt, hsame⟩
    obtain ⟨d, hd, rfl⟩ := List.mem_map.mp (mem_ascending.mp hx)
    exact hnew d hd hlt hsame

/-- The cells of the columns without a header cell that compares periods. -/
theorem dropDeviationColumns_eq_filter (rules : Rules) (cells : List Cell) :
    dropDeviationColumns rules cells = cells.filter fun c =>
      decide (∀ d ∈ cells, d.col = c.col → d.group = .header →
        rules.isDeviation d.raw = false) := by
  refine List.filter_congr fun c _ => ?_
  rw [Bool.eq_iff_iff, Bool.not_eq_true', ← Bool.not_eq_true, List.contains_iff_mem,
    deviationColumns, decide_eq_true_iff]
  simp only [List.mem_map, List.mem_filter, Bool.and_eq_true, beq_iff_eq]
  constructor
  · intro hplain d hd hcol hheader
    rw [← Bool.not_eq_true]
    exact fun hdeviation => hplain ⟨d, ⟨hd, hheader, hdeviation⟩, hcol⟩
  · rintro hplain ⟨d, ⟨hd, hheader, hdeviation⟩, hcol⟩
    rw [hplain d hd hcol hheader] at hdeviation
    cases hdeviation

section selection
variable {rules : Rules} {cells : List Cell}

theorem dropDuplicates_eq_news : dropDuplicates cells = (news cells).map Prod.fst := by
  have hfirsts := firstsBy_eq_filter (Grid.pairwise_zipIdx cells) (fun _ _ => Nat.lt_asymm)
    (fun e => e.1.key) []
  have hplaces : dropDuplicates cells = firstsBy Cell.key [] (cells.zipIdx.map Prod.fst) := by
    rw [List.zipIdx_map_fst]
    rfl
  rw [hplaces, firstsBy_map, hfirsts, news]
  refine congrArg (List.map Prod.fst) (List.filter_congr fun e _ => decide_eq_decide.mpr ?_)
  exact and_iff_right List.not_mem_nil

/-- The cells of columns that repeat none to their left, with their places. -/
def leftmost (cells : List Cell) : List (Cell × Nat) :=
  (news cells).filter fun e => decide (IsLeftmost cells e)

/-- These of them that are the last at their positions. -/
def lasts (cells : List Cell) : List (Cell × Nat) :=
  (leftmost cells).filter fun e => decide (IsLast cells e)

theorem mem_leftmost {e : Cell × Nat} :
    e ∈ leftmost cells ↔ e ∈ news cells ∧ IsLeftmost cells e := by
  rw [leftmost, List.mem_filter, decide_eq_true_iff]

theorem mem_lasts {e : Cell × Nat} :
    e ∈ lasts cells ↔ e ∈ news cells ∧ IsLeftmost cells e ∧ IsLast cells e := by
  rw [lasts, List.mem_filter, mem_leftmost, decide_eq_true_iff, and_assoc]

theorem dropRepeatedColumns_eq_leftmost :
    dropRepeatedColumns ((news cells).map Prod.fst) = (leftmost cells).map Prod.fst := by
  rw [dropRepeatedColumns_eq_filter, List.filter_map, leftmost]
  refine congrArg (List.map Prod.fst) (List.filter_congr fun e _ => decide_eq_decide.mpr ?_)
  exact List.forall_mem_map

theorem keepLastPerPosition_eq_lasts :
    keepLastPerPosition ((leftmost cells).map Prod.fst) = (lasts cells).map Prod.fst := by
  have hplaces : (leftmost cells).Pairwise fun e f => e.2 < f.2 :=
    ((Grid.pairwise_zipIdx cells).filter _).filter _
  rw [keepLastPerPosition_eq_filter hplaces, lasts]
  refine congrArg (List.map Prod.fst) (List.filter_congr fun e _ => decide_eq_decide.mpr ?_)
  simp only [mem_leftmost, and_imp, IsLast]

theorem dropDeviationColumns_eq_plain :
    dropDeviationColumns rules ((lasts cells).map Prod.fst) =
      ((lasts cells).filter fun e => decide (IsPlain rules cells e)).map Prod.fst := by
  rw [dropDeviationColumns_eq_filter, List.filter_map]
  refine congrArg (List.map Prod.fst) (List.filter_congr fun e _ => decide_eq_decide.mpr ?_)
  simp only [List.forall_mem_map, mem_lasts, and_imp, IsPlain]

/-- All four conditions at once. -/
theorem plain_eq_filter :
    ((lasts cells).filter fun e => decide (IsPlain rules cells e)) = cells.zipIdx.filter fun e =>
      decide (IsNew cells e ∧ IsLeftmost cells e ∧ IsLast cells e ∧ IsPlain rules cells e) := by
  rw [lasts, leftmost, news, List.filter_filter, List.filter_filter, List.filter_filter]
  refine List.filter_congr fun e _ => ?_
  simp only [Bool.decide_and, Bool.and_comm, Bool.and_left_comm]

theorem fillControl_eq (c : Cell) :
    fillControl c = if c.valueType = "FormControl" ∧ Text.isBlank c.raw = true then
      c.withValue (.number 0) else c := by
  simp only [fillControl, Bool.and_eq_true, beq_iff_eq]

end selection

end Preparation

open Preparation

/-- No two cells that are left stand at one position. -/
theorem prepareCells_nodup (rules : Rules) (cells : List Cell) :
    ((prepareCells rules cells).map Cell.position).Nodup := by
  have hpositions : (prepareCells rules cells).map Cell.position =
      ((sifted cells).filter fun c =>
        !(deviationColumns rules (sifted cells)).contains c.col).map Cell.position :=
    Cell.map_eq_of_keys (keys_prepareCells rules cells) fun k => (k.row, k.col)
  rw [hpositions]
  exact (List.filter_sublist.map Cell.position).nodup (keepLastPerPosition_nodup _)

/-- **Which cells are left.**  Those that are new, in a leftmost and plain column and the last at
their positions, in the order of the listing.  They are as they were listed, but for the value of an
empty form control, which is zero, and no two of them stand at one position. -/
theorem prepareCells_eq_selection (rules : Rules) (cells : List Cell) :
    prepareCells rules cells =
      ((cells.zipIdx.filter fun e => decide (IsNew cells e ∧ IsLeftmost cells e ∧ IsLast cells e ∧
        IsPlain rules cells e)).map fun e =>
          if e.1.valueType = "FormControl" ∧ Text.isBlank e.1.raw = true then
            e.1.withValue (.number 0)
          else e.1) ∧
    ((prepareCells rules cells).map Cell.position).Nodup := by
  refine ⟨?_, prepareCells_nodup rules cells⟩
  rw [prepareCells, dropDuplicates_eq_news, dropRepeatedColumns_eq_leftmost,
    keepLastPerPosition_eq_lasts, dropDeviationColumns_eq_plain, plain_eq_filter, List.map_map]
  exact List.map_congr_left fun e _ => fillControl_eq e.1

end StatementTables
