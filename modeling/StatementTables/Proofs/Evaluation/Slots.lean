import Mathlib.Data.List.Nodup
import StatementTables.Evaluation.Model

/-! # Slots and positions

The formulas of a list of cells are those of its formula cells, each with the address and the text
of its cell (`mem_formulas_iff`), and no two of them have one position (`positions_nodup`).  So the
slot of a position is that of the one formula that stands there (`slotOf?_eq_some_iff`), and a
position has a slot exactly if its cell has a formula (`exists_slotOf?_iff`). -/

namespace StatementTables.Evaluation

open Formula

/-! ### Formulas in the order of the cells -/

/-- The formula of a cell at a position. -/
def formulaAt? (entry : Cell × Nat) : Option FormulaCell :=
  entry.1.formula.map fun text => ⟨entry.2, entry.1.address, parse text⟩

theorem formulasFrom_eq_filterMap (start : Nat) (cells : List Cell) :
    formulasFrom start cells = (cells.zipIdx start).filterMap formulaAt? := by
  induction cells generalizing start with
  | nil => rfl
  | cons c cells ih =>
      rw [List.zipIdx_cons, formulasFrom]
      cases hformula : c.formula with
      | none => rw [List.filterMap_cons_none (by simp [formulaAt?, hformula]), ih]
      | some text =>
          have hentry : formulaAt? (c, start) = some ⟨start, c.address, parse text⟩ := by
            rw [formulaAt?, hformula, Option.map_some]
          rw [List.filterMap_cons_some hentry, ih]

theorem formulasFrom_positions (start : Nat) (cells : List Cell) :
    ((formulasFrom start cells).map (·.position)).Sublist (List.range' start cells.length) := by
  induction cells generalizing start with
  | nil => exact List.Sublist.refl _
  | cons c cells ih =>
      rw [List.length_cons, List.range'_succ, formulasFrom]
      split
      · exact (ih (start + 1)).cons_cons start
      · exact (ih (start + 1)).cons start

namespace Model

theorem positions_nodup (cells : List Cell) :
    ((ofCells cells).formulas.map (·.position)).Nodup :=
  (formulasFrom_positions 0 cells).nodup List.nodup_range'

theorem mem_formulas_iff {cells : List Cell} {f : FormulaCell} :
    f ∈ (ofCells cells).formulas ↔ ∃ c text, cells[f.position]? = some c ∧
      c.formula = some text ∧ f.address = c.address ∧ f.expr = parse text := by
  have hformulas : (ofCells cells).formulas = cells.zipIdx.filterMap formulaAt? :=
    formulasFrom_eq_filterMap 0 cells
  rw [hformulas, List.mem_filterMap]
  constructor
  · rintro ⟨⟨c, position⟩, hentry, hf⟩
    obtain ⟨text, htext, rfl⟩ := Option.map_eq_some_iff.mp hf
    exact ⟨c, text, List.mem_zipIdx_iff_getElem?.mp hentry, htext, rfl, rfl⟩
  · rintro ⟨c, text, hcell, htext, haddress, hexpr⟩
    refine ⟨(c, f.position), List.mem_zipIdx_iff_getElem?.mpr hcell, ?_⟩
    rw [formulaAt?, htext, Option.map_some, ← haddress, ← hexpr]

/-! ### The slot of a position -/

theorem slotOf?_lt {m : Model} {position slot : Nat} (h : m.slotOf? position = some slot) :
    slot < m.size := by
  obtain ⟨hslot, -⟩ := List.findIdx?_eq_some_iff_getElem.mp h
  exact hslot

section slots
variable {cells : List Cell} {position slot : Nat}

/-- Two slots with one position are the same. -/
theorem slot_unique {f g : FormulaCell} {other : Nat}
    (hf : (ofCells cells).formulas[slot]? = some f) (hg : (ofCells cells).formulas[other]? = some g)
    (h : f.position = g.position) : slot = other := by
  obtain ⟨hslot, -⟩ := List.getElem?_eq_some_iff.mp hf
  refine (List.getElem?_inj (by simpa using hslot) (positions_nodup cells)).mp ?_
  rw [List.getElem?_map, List.getElem?_map, hf, hg, Option.map_some, Option.map_some, h]

theorem slotOf?_eq_some_iff :
    (ofCells cells).slotOf? position = some slot ↔
      ∃ f, (ofCells cells).formulas[slot]? = some f ∧ f.position = position := by
  unfold slotOf?
  rw [List.findIdx?_eq_some_iff_getElem]
  constructor
  · rintro ⟨hslot, hposition, -⟩
    exact ⟨_, List.getElem?_eq_getElem hslot, by simpa using hposition⟩
  · rintro ⟨f, hf, hposition⟩
    obtain ⟨hslot, rfl⟩ := List.getElem?_eq_some_iff.mp hf
    refine ⟨hslot, by simpa using hposition, fun other hlt hother => ?_⟩
    have hsame : other = slot := slot_unique (List.getElem?_eq_getElem (Nat.lt_trans hlt hslot)) hf
      (Eq.trans (by simpa using hother) hposition.symm)
    omega

theorem exists_slotOf?_iff :
    (∃ slot, (ofCells cells).slotOf? position = some slot) ↔
      ∃ c text, cells[position]? = some c ∧ c.formula = some text := by
  constructor
  · rintro ⟨slot, hslot⟩
    obtain ⟨f, hf, rfl⟩ := slotOf?_eq_some_iff.mp hslot
    obtain ⟨c, text, hcell, htext, -⟩ := mem_formulas_iff.mp (List.mem_of_getElem? hf)
    exact ⟨c, text, hcell, htext⟩
  · rintro ⟨c, text, hcell, htext⟩
    have hf : (⟨position, c.address, parse text⟩ : FormulaCell) ∈ (ofCells cells).formulas :=
      mem_formulas_iff.mpr ⟨c, text, hcell, htext, rfl, rfl⟩
    obtain ⟨slot, hslot⟩ := List.getElem?_of_mem hf
    exact ⟨slot, slotOf?_eq_some_iff.mpr ⟨_, hslot, rfl⟩⟩

end slots

end Model

end StatementTables.Evaluation
