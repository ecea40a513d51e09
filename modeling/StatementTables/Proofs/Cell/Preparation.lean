import Mathlib.Data.List.Nodup
import StatementTables.Cell.Preparation

/-! # What the preparation leaves

Each pass of the preparation leaves a table alone that has nothing for it to drop.  Distinct
positions are enough for the two passes that look for repeated cells.  A table is `Settled` if this
holds of every pass, and then `prepareCells` returns it (`prepareCells_of_settled`).  Of any table
the last passes leave the cells outside deviation columns, with nothing but values changed
(`keys_prepareCells`). -/

namespace StatementTables

namespace Cell

/-- Where a cell stands. -/
def position (c : Cell) : Int × Int := (c.row, c.col)

theorem samePosition_iff {a b : Cell} : a.samePosition b = true ↔ a.position = b.position := by
  simp [samePosition, position]

theorem position_of_key {a b : Cell} (h : a.key = b.key) : a.position = b.position :=
  Prod.ext (congrArg Key.row h) (congrArg Key.col h)

section keys
variable {cells cells' : List Cell} (h : cells.map key = cells'.map key)
include h

/-- What does not depend on values is the same for cells that differ in their values only. -/
theorem map_eq_of_keys {α : Type} (f : Key → α) :
    (cells.map fun c => f c.key) = cells'.map fun c => f c.key := by
  have hmap := congrArg (List.map f) h
  rwa [List.map_map, List.map_map] at hmap

theorem filter_keys (p : Key → Bool) :
    (cells.filter fun c => p c.key).map key = (cells'.filter fun c => p c.key).map key := by
  have hfilter := congrArg (List.filter p) h
  rwa [List.filter_map, List.filter_map] at hfilter

end keys

end Cell

namespace Preparation

/-! ### The first of each key -/

section firsts
variable {α κ : Type} [DecidableEq κ] {key : α → κ}

theorem firstsBy_eq_self {seen : List κ} {xs : List α} (hnodup : (xs.map key).Nodup)
    (hseen : ∀ x ∈ xs, key x ∉ seen) : firstsBy key seen xs = xs := by
  induction xs generalizing seen with
  | nil => rfl
  | cons x xs ih =>
      rw [List.map_cons, List.nodup_cons] at hnodup
      have hnew : key x ∉ seen := hseen x List.mem_cons_self
      have hrest : ∀ y ∈ xs, key y ∉ key x :: seen := by
        intro y hy hmem
        rcases List.mem_cons.mp hmem with heq | hmem
        · exact hnodup.1 (heq ▸ List.mem_map_of_mem hy)
        · exact hseen y (List.mem_cons_of_mem x hy) hmem
      simp [firstsBy, hnew, ih hnodup.2 hrest]

theorem firstsBy_sublist (key : α → κ) (seen : List κ) (xs : List α) :
    (firstsBy key seen xs).Sublist xs := by
  induction xs generalizing seen with
  | nil => exact List.Sublist.refl _
  | cons x xs ih =>
      rw [firstsBy]
      split
      · exact (ih seen).cons x
      · exact (ih (key x :: seen)).cons_cons x

theorem firstsBy_map {β : Type} (f : β → α) (seen : List κ) (ys : List β) :
    firstsBy key seen (ys.map f) = (firstsBy (fun y => key (f y)) seen ys).map f := by
  induction ys generalizing seen with
  | nil => rfl
  | cons y ys ih =>
      rw [List.map_cons, firstsBy, firstsBy]
      split
      · exact ih seen
      · rw [ih, List.map_cons]

/-- Of elements in ascending order the first of each key are those with no smaller one of the same
key. -/
theorem firstsBy_eq_filter {R : α → α → Prop} [DecidableRel R] {xs : List α}
    (h : xs.Pairwise R) (hasymm : ∀ x y, R x y → ¬ R y x) (key : α → κ) (seen : List κ) :
    firstsBy key seen xs = xs.filter fun x =>
      decide (key x ∉ seen ∧ ∀ y ∈ xs, R y x → key y ≠ key x) := by
  induction xs generalizing seen with
  | nil => rfl
  | cons first rest ih =>
      obtain ⟨hlater, hrest⟩ := List.pairwise_cons.mp h
      have hfirst : (key first ∉ seen ∧ ∀ y ∈ first :: rest, R y first → key y ≠ key first) ↔
          key first ∉ seen := by
        refine and_iff_left (List.forall_mem_cons.mpr ⟨fun hlt => ?_, fun y hy hlt => ?_⟩)
        · exact absurd hlt (hasymm first first hlt)
        · exact absurd hlt (hasymm first y (hlater y hy))
      -- for the elements after it the first one has been seen
      have htail : ∀ seen' : List κ, (∀ k, k ∈ seen' ↔ k = key first ∨ k ∈ seen) →
          (rest.filter fun x => decide (key x ∉ seen' ∧ ∀ y ∈ rest, R y x → key y ≠ key x)) =
          rest.filter fun x =>
            decide (key x ∉ seen ∧ ∀ y ∈ first :: rest, R y x → key y ≠ key x) := by
        intro seen' hseen'
        refine List.filter_congr fun x hx => decide_eq_decide.mpr ?_
        rw [List.forall_mem_cons, hseen', not_or]
        constructor
        · rintro ⟨⟨hne, hnew⟩, hbefore⟩
          exact ⟨hnew, fun _ => Ne.symm hne, hbefore⟩
        · rintro ⟨hnew, hne, hbefore⟩
          exact ⟨⟨(hne (hlater x hx)).symm, hnew⟩, hbefore⟩
      rw [firstsBy, List.filter_cons, decide_eq_decide.mpr hfirst]
      by_cases hseen : key first ∈ seen
      · rw [if_pos (List.contains_iff_mem.mpr hseen), if_neg (by simpa using hseen), ih hrest,
          htail seen fun k => ?_]
        exact ⟨.inr, fun hk => hk.elim (fun heq => heq ▸ hseen) id⟩
      · rw [if_neg (mt List.contains_iff_mem.mp hseen), if_pos (decide_eq_true hseen), ih hrest,
          htail _ fun k => List.mem_cons]

end firsts

/-! ### The passes one by one -/

variable {rules : Rules} {cells : List Cell}

theorem dropDuplicates_eq_self (h : (cells.map Cell.position).Nodup) :
    dropDuplicates cells = cells := by
  apply firstsBy_eq_self
  · refine List.Pairwise.map Cell.key (fun a b hne heq => ?_) (List.pairwise_map.mp h)
    exact hne (Cell.position_of_key heq)
  · intro c _
    simp

/-- Whether a column to the left has the same content. -/
def repeatsColumn (cells : List Cell) (col : Int) : Bool :=
  (columns cells).any fun other => decide (other < col) && content cells other == content cells col

theorem repeatsColumn_iff {y : Int} :
    repeatsColumn cells y = true ↔
      ∃ x ∈ columns cells, x < y ∧ content cells x = content cells y := by
  simp [repeatsColumn]

/-- The columns are gone through from left to right, so one is fresh if none to its left has its
content. -/
theorem mem_freshColumns {x : Int} :
    x ∈ freshColumns cells ↔ x ∈ columns cells ∧ repeatsColumn cells x = false := by
  have hcolumns : (columns cells).Pairwise (· < ·) := pairwise_ascending _
  rw [freshColumns, firstsBy_eq_filter hcolumns fun _ _ => Int.lt_asymm, List.mem_filter,
    decide_eq_true_iff, ← Bool.not_eq_true, repeatsColumn_iff]
  simp only [List.not_mem_nil, not_false_eq_true, true_and, not_exists, not_and, ne_eq]

/-- Columns are dropped that repeat one to their left. -/
theorem dropRepeatedColumns_eq (cells : List Cell) :
    dropRepeatedColumns cells = cells.filter fun c => !repeatsColumn cells c.col := by
  refine List.filter_congr fun c hc => ?_
  have hcol : c.col ∈ columns cells := mem_ascending.mpr (List.mem_map_of_mem hc)
  rw [Bool.eq_iff_iff, List.contains_iff_mem, mem_freshColumns, Bool.not_eq_true']
  exact and_iff_right hcol

theorem dropRepeatedColumns_eq_self
    (h : ∀ a ∈ cells, ∀ b ∈ cells, a.col < b.col → content cells a.col ≠ content cells b.col) :
    dropRepeatedColumns cells = cells := by
  rw [dropRepeatedColumns_eq, List.filter_eq_self]
  intro b hb
  rw [Bool.not_eq_true', ← Bool.not_eq_true, repeatsColumn_iff]
  rintro ⟨other, hother, hlt, hsame⟩
  obtain ⟨a, ha, rfl⟩ := List.mem_map.mp (mem_ascending.mp hother)
  exact h a ha b hb hlt hsame

theorem keepLastPerPosition_eq_self (h : (cells.map Cell.position).Nodup) :
    keepLastPerPosition cells = cells := by
  induction cells with
  | nil => rfl
  | cons c cs ih =>
      rw [List.map_cons, List.nodup_cons] at h
      have hlast : cs.any c.samePosition = false := by
        rw [List.any_eq_false]
        intro d hd hsame
        exact h.1 (Cell.samePosition_iff.mp hsame ▸ List.mem_map_of_mem hd)
      simp [keepLastPerPosition, hlast, ih h.2]

theorem keepLastPerPosition_sublist (cells : List Cell) :
    (keepLastPerPosition cells).Sublist cells := by
  induction cells with
  | nil => exact List.Sublist.refl _
  | cons c cs ih =>
      rw [keepLastPerPosition]
      split
      · exact ih.cons c
      · exact ih.cons_cons c

/-- No two of the cells that are kept stand at one position. -/
theorem keepLastPerPosition_nodup (cells : List Cell) :
    ((keepLastPerPosition cells).map Cell.position).Nodup := by
  induction cells with
  | nil => exact List.nodup_nil
  | cons c cs ih =>
      rw [keepLastPerPosition]
      split
      · exact ih
      · rename_i hlast
        rw [List.map_cons, List.nodup_cons]
        refine ⟨fun hmem => hlast ?_, ih⟩
        obtain ⟨d, hd, hposition⟩ := List.mem_map.mp hmem
        exact List.any_eq_true.mpr ⟨d, (keepLastPerPosition_sublist cs).subset hd,
          Cell.samePosition_iff.mpr hposition.symm⟩

theorem dropDeviationColumns_eq_self
    (h : ∀ c ∈ cells, c.group = .header → rules.isDeviation c.raw = false) :
    dropDeviationColumns rules cells = cells := by
  have hnone : deviationColumns rules cells = [] := by
    unfold deviationColumns
    rw [List.map_eq_nil_iff, List.filter_eq_nil_iff]
    intro c hc hdeviation
    simp only [Bool.and_eq_true, beq_iff_eq] at hdeviation
    rw [h c hc hdeviation.1] at hdeviation
    exact absurd hdeviation.2 (by decide)
  simp [dropDeviationColumns, hnone]

theorem fillControl_eq_self {c : Cell}
    (h : c.valueType = "FormControl" → Text.isBlank c.raw = false) :
    fillControl c = c := by
  unfold fillControl
  split
  · rename_i hcontrol
    simp only [Bool.and_eq_true, beq_iff_eq] at hcontrol
    rw [h hcontrol.1] at hcontrol
    exact absurd hcontrol.2 (by decide)
  · rfl

end Preparation

/-! ### All passes -/

open Preparation

/-- Cells with nothing to drop or to fill. -/
structure Settled (rules : Rules) (cells : List Cell) : Prop where
  positions : (cells.map Cell.position).Nodup
  columns : ∀ a ∈ cells, ∀ b ∈ cells, a.col < b.col → content cells a.col ≠ content cells b.col
  headers : ∀ c ∈ cells, c.group = .header → rules.isDeviation c.raw = false
  controls : ∀ c ∈ cells, c.valueType = "FormControl" → Text.isBlank c.raw = false

theorem prepareCells_of_settled {rules : Rules} {cells : List Cell} (h : Settled rules cells) :
    prepareCells rules cells = cells := by
  have hfill : cells.map fillControl = cells.map id :=
    List.map_congr_left fun c hc => fillControl_eq_self (h.controls c hc)
  rw [prepareCells, dropDuplicates_eq_self h.positions, dropRepeatedColumns_eq_self h.columns,
    keepLastPerPosition_eq_self h.positions, dropDeviationColumns_eq_self h.headers, hfill,
    List.map_id]

/-! ### Before the deviation columns are dropped -/

/-- The cells of a table once repeated cells and columns are dropped. -/
def Preparation.sifted (cells : List Cell) : List Cell :=
  keepLastPerPosition (dropRepeatedColumns (dropDuplicates cells))

theorem Preparation.fillControl_key (c : Cell) : (fillControl c).key = c.key := by
  unfold fillControl
  split <;> rfl

theorem keys_prepareCells (rules : Rules) (cells : List Cell) :
    (prepareCells rules cells).map Cell.key =
      ((sifted cells).filter fun c =>
        !(deviationColumns rules (sifted cells)).contains c.col).map Cell.key := by
  unfold prepareCells
  rw [List.map_map]
  exact List.map_congr_left fun c _ => fillControl_key c

/-- A prepared cell is one that was left, with an empty control filled. -/
theorem exists_of_mem_prepareCells {rules : Rules} {cells : List Cell} {c : Cell}
    (h : c ∈ prepareCells rules cells) : ∃ source ∈ sifted cells, c = fillControl source := by
  obtain ⟨source, hsource, rfl⟩ := List.mem_map.mp h
  exact ⟨source, List.mem_of_mem_filter hsource, rfl⟩

/-! ### The default rules -/

theorem default_compiles : RuleTexts.default.compile?.isSome = true := by decide +kernel

/-- The rules that hold where none are written. -/
def defaultRules : Rules := RuleTexts.default.compile?.get default_compiles

end StatementTables
