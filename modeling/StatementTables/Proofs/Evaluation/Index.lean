import Mathlib.Data.List.Induction
import Mathlib.Data.List.Nodup
import Mathlib.Data.List.Sort
import Mathlib.Logic.Equiv.Defs
import StatementTables.Evaluation.Model

/-! # The index of a table

The index has its references in strict row-major order (`ordered_ofCells`) and gives each the last
cell with that address (`lookup_ofCells`).  Where no two addresses name one cell
(`DistinctReferences`), the index of a table in another order differs in the positions only
(`ofCells_rearranged`). -/

namespace StatementTables.Evaluation

/-! ### Row-major order -/

theorem before_iff {a b : Reference} :
    a.before b = true ↔ a.row < b.row ∨ a.row = b.row ∧ a.col < b.col := by
  unfold Reference.before
  simp

theorem before_trans {a b c : Reference} (hab : a.before b = true) (hbc : b.before c = true) :
    a.before c = true := by
  rw [before_iff] at hab hbc ⊢
  omega

theorem not_before_self (a : Reference) : ¬ a.before a = true := by
  rw [before_iff]
  omega

/-- Of two different references one comes before the other. -/
theorem before_of_not_before {a b : Reference} (h : ¬ a.before b = true) (hne : a ≠ b) :
    b.before a = true := by
  rw [before_iff] at h ⊢
  by_contra hnot
  refine hne ?_
  obtain ⟨row, col⟩ := a
  obtain ⟨row', col'⟩ := b
  dsimp only at h hnot
  rw [Reference.mk.injEq]
  omega

namespace Index

/-- The references ascend. -/
def Ordered (index : Index) : Prop :=
  index.Pairwise fun a b => a.1.before b.1 = true

/-! ### One insertion -/

section insert
variable (index : Index) (r : Reference) (position : Nat)

theorem lookup_insert (s : Reference) :
    (index.insert r position).lookup s = if s = r then some position else index.lookup s := by
  induction index with
  | nil =>
      by_cases hs : s = r
      · simp [insert, hs]
      · simp [insert, hs]
  | cons entry rest ih =>
      obtain ⟨t, p⟩ := entry
      rw [insert]
      split
      · rw [List.lookup_cons]
        by_cases hs : s = r
        · simp [hs]
        · simp [hs, beq_false_of_ne hs]
      · split
        · rename_i _ heq
          subst heq
          rw [List.lookup_cons, List.lookup_cons]
          by_cases hs : s = r
          · simp [hs]
          · simp [hs, beq_false_of_ne hs]
        · rename_i _ hne
          rw [List.lookup_cons, List.lookup_cons, ih]
          by_cases hs : s = t
          · subst hs
            simp [Ne.symm hne]
          · simp [beq_false_of_ne hs]

theorem mem_insert {e : Reference × Nat} (h : e ∈ index.insert r position) :
    e = (r, position) ∨ e ∈ index := by
  induction index with
  | nil => exact .inl (List.mem_singleton.mp h)
  | cons entry rest ih =>
      rw [insert] at h
      split at h
      · exact List.mem_cons.mp h
      · split at h
        · rcases List.mem_cons.mp h with h | h
          · exact .inl h
          · exact .inr (List.mem_cons_of_mem _ h)
        · rcases List.mem_cons.mp h with h | h
          · exact .inr (h ▸ List.mem_cons_self)
          · exact (ih h).imp_right (List.mem_cons_of_mem _)

variable {index}

theorem Ordered.insert (h : index.Ordered) : (index.insert r position).Ordered := by
  induction index with
  | nil => exact List.pairwise_singleton _ _
  | cons entry rest ih =>
      obtain ⟨t, p⟩ := entry
      obtain ⟨hfirst, hrest⟩ := List.pairwise_cons.mp h
      rw [Index.insert]
      split
      · rename_i hbefore
        refine List.pairwise_cons.mpr ⟨fun e he => ?_, h⟩
        rcases List.mem_cons.mp he with rfl | he
        · exact hbefore
        · exact before_trans hbefore (hfirst e he)
      · rename_i hnot
        split
        · rename_i heq
          subst heq
          exact List.pairwise_cons.mpr ⟨hfirst, hrest⟩
        · rename_i hne
          refine List.pairwise_cons.mpr ⟨fun e he => ?_, ih hrest⟩
          rcases mem_insert rest r position he with rfl | he
          · exact before_of_not_before hnot hne
          · exact hfirst e he

end insert

theorem Ordered.lookup_eq_some_iff {index : Index} (h : index.Ordered) {r : Reference}
    {position : Nat} : index.lookup r = some position ↔ (r, position) ∈ index := by
  rw [List.lookup_eq_some_iff]
  constructor
  · rintro ⟨front, back, rfl, -⟩
    exact List.mem_append_right _ List.mem_cons_self
  · intro hmem
    obtain ⟨front, back, rfl⟩ := List.append_of_mem hmem
    refine ⟨front, back, rfl, fun e he => ?_⟩
    have hbefore := (List.pairwise_append.mp h).2.2 e he _ List.mem_cons_self
    rw [bne_iff_ne]
    rintro rfl
    exact not_before_self _ hbefore

/-! ### The index of all cells -/

/-- The index with one more cell. -/
def addCell (index : Index) (position : Nat) (c : Cell) : Index :=
  match Reference.parse? c.address with
  | some r => index.insert r position
  | none => index

theorem addCells_append (index : Index) (position : Nat) (cells : List Cell) (last : Cell) :
    index.addCells position (cells ++ [last]) =
      (index.addCells position cells).addCell (position + cells.length) last := by
  induction cells generalizing index position with
  | nil => rfl
  | cons c cells ih =>
      rw [List.cons_append, addCells, addCells, ih, List.length_cons]
      congr 1
      omega

theorem ofCells_append (cells : List Cell) (last : Cell) :
    ofCells (cells ++ [last]) = (ofCells cells).addCell cells.length last := by
  unfold ofCells
  rw [addCells_append, Nat.zero_add]

theorem ordered_ofCells (cells : List Cell) : (ofCells cells).Ordered := by
  induction cells using List.reverseRecOn with
  | nil => exact List.Pairwise.nil
  | append_singleton cells last ih =>
      rw [ofCells_append, addCell]
      split
      · exact ih.insert _ _
      · exact ih

theorem lookup_addCell (index : Index) (position : Nat) (c : Cell) (r : Reference) :
    (index.addCell position c).lookup r =
      if Reference.parse? c.address = some r then some position else index.lookup r := by
  unfold addCell
  split
  · rename_i s hs
    rw [lookup_insert, hs]
    by_cases h : r = s
    · rw [if_pos h, if_pos (congrArg some h.symm)]
    · rw [if_neg h, if_neg fun heq => h (Option.some.inj heq).symm]
  · rename_i hnone
    rw [hnone, if_neg nofun]

theorem getElem?_concat_eq_some {α : Type} {xs : List α} {x y : α} {i : Nat} :
    (xs ++ [x])[i]? = some y ↔ xs[i]? = some y ∨ i = xs.length ∧ y = x := by
  grind

/-- Of the cells with one address the last counts. -/
theorem lookup_ofCells {cells : List Cell} {r : Reference} {position : Nat} :
    (ofCells cells).lookup r = some position ↔
      (∃ c, cells[position]? = some c ∧ Reference.parse? c.address = some r) ∧
        ∀ later d, position < later → cells[later]? = some d →
          Reference.parse? d.address ≠ some r := by
  induction cells using List.reverseRecOn generalizing position with
  | nil => simp [ofCells, addCells]
  | append_singleton cells last ih =>
      rw [ofCells_append, lookup_addCell]
      have hbound : ∀ {i : Nat} {c : Cell}, cells[i]? = some c → i < cells.length := fun h =>
        (List.getElem?_eq_some_iff.mp h).1
      simp only [getElem?_concat_eq_some]
      split
      · grind
      · rw [ih]
        grind

end Index

/-! ### Tables in another order -/

/-- No two addresses name one cell. -/
def DistinctReferences (cells : List Cell) : Prop :=
  (cells.filterMap fun c => Reference.parse? c.address).Nodup

/-- The address of the cell at a position names a cell. -/
def NamedAt (cells : List Cell) (r : Reference) (position : Nat) : Prop :=
  ∃ c, cells[position]? = some c ∧ Reference.parse? c.address = some r

theorem distinctReferences_iff {cells : List Cell} :
    DistinctReferences cells ↔
      ∀ r p q, NamedAt cells r p → NamedAt cells r q → p = q := by
  unfold DistinctReferences List.Nodup
  rw [List.pairwise_filterMap, List.pairwise_iff_getElem]
  constructor
  · rintro h r p q ⟨c, hc, hp⟩ ⟨d, hd, hq⟩
    obtain ⟨hplt, rfl⟩ := List.getElem?_eq_some_iff.mp hc
    obtain ⟨hqlt, rfl⟩ := List.getElem?_eq_some_iff.mp hd
    rcases Nat.lt_trichotomy p q with hlt | heq | hlt
    · exact absurd rfl (h p q hplt hqlt hlt r hp r hq)
    · exact heq
    · exact absurd rfl (h q p hqlt hplt hlt r hq r hp)
  · rintro h p q hplt hqlt hlt r hp s hq rfl
    have := h r p q ⟨_, List.getElem?_eq_getElem hplt, hp⟩ ⟨_, List.getElem?_eq_getElem hqlt, hq⟩
    omega

/-- A table has the cells of another in another order: the cell at `i` is the one that stands at
`σ i` there. -/
structure Rearranges (σ : Equiv.Perm Nat) (cells moved : List Cell) : Prop where
  cell : ∀ i, moved[i]? = cells[σ i]?

section rearranged
variable {σ : Equiv.Perm Nat} {cells moved : List Cell}

theorem Rearranges.symm (h : Rearranges σ cells moved) : Rearranges σ.symm moved cells where
  cell := fun i => by rw [h.cell, Equiv.apply_symm_apply]

theorem Rearranges.namedAt_iff (h : Rearranges σ cells moved) {r : Reference} {i : Nat} :
    NamedAt moved r i ↔ NamedAt cells r (σ i) := by
  unfold NamedAt
  rw [h.cell]

theorem Rearranges.distinct (h : Rearranges σ cells moved) (hdistinct : DistinctReferences cells) :
    DistinctReferences moved := by
  rw [distinctReferences_iff] at hdistinct ⊢
  intro r i j hi hj
  exact σ.injective (hdistinct r _ _ (h.namedAt_iff.mp hi) (h.namedAt_iff.mp hj))

namespace Index

/-- Where no two addresses name one cell the index has exactly the cells that are named. -/
theorem mem_ofCells_iff (hdistinct : DistinctReferences cells) {r : Reference} {position : Nat} :
    (r, position) ∈ ofCells cells ↔ NamedAt cells r position := by
  rw [← (ordered_ofCells cells).lookup_eq_some_iff, lookup_ofCells]
  refine ⟨fun h => h.1, fun h => ⟨h, fun later d hlater hd hparse => ?_⟩⟩
  have := distinctReferences_iff.mp hdistinct r position later h ⟨d, hd, hparse⟩
  omega

/-- The index of a table in another order. -/
theorem ofCells_rearranged (h : Rearranges σ cells moved) (hdistinct : DistinctReferences cells) :
    ofCells cells = (ofCells moved).map fun e => (e.1, σ e.2) := by
  have hantisymm : Std.Antisymm fun a b : Reference × Nat => a.1.before b.1 = true :=
    ⟨fun _ _ hab hba => absurd (before_trans hab hba) (not_before_self _)⟩
  have hirrefl : Std.Irrefl fun a b : Reference × Nat => a.1.before b.1 = true :=
    ⟨fun _ => not_before_self _⟩
  refine List.Pairwise.eq_of_mem_iff (ordered_ofCells cells) ?_ fun ⟨r, position⟩ => ?_
  · exact List.pairwise_map.mpr (ordered_ofCells moved)
  · rw [mem_ofCells_iff hdistinct, List.mem_map]
    constructor
    · intro hnamed
      refine ⟨(r, σ.symm position), (mem_ofCells_iff (h.distinct hdistinct)).mpr ?_, ?_⟩
      · rw [h.namedAt_iff, Equiv.apply_symm_apply]
        exact hnamed
      · rw [Equiv.apply_symm_apply]
    · rintro ⟨⟨s, i⟩, hmem, heq⟩
      obtain ⟨rfl, rfl⟩ := Prod.mk.injEq .. ▸ heq
      exact h.namedAt_iff.mp ((mem_ofCells_iff (h.distinct hdistinct)).mp hmem)

end Index

end rearranged

end StatementTables.Evaluation
