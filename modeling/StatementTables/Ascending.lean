/-! # Ascending numbers

`ascending` puts numbers in order and keeps each once: row and column numbers as a grid wants
them.  It has the same elements as the list (`mem_ascending`) and increases strictly
(`pairwise_ascending`). -/

namespace StatementTables

/-- The elements in ascending order, each once. -/
def ascending (xs : List Int) : List Int :=
  xs.foldr insertOnce []
where
  /-- Puts a number in its place unless it is there. -/
  insertOnce (x : Int) : List Int → List Int
    | [] => [x]
    | y :: ys => if x < y then x :: y :: ys else if x = y then y :: ys else y :: insertOnce x ys

theorem mem_insertOnce {x y : Int} {ys : List Int} :
    x ∈ ascending.insertOnce y ys ↔ x = y ∨ x ∈ ys := by
  induction ys with
  | nil => simp [ascending.insertOnce]
  | cons z zs ih =>
    simp only [ascending.insertOnce]
    split
    · simp
    · split <;> grind

@[simp] theorem mem_ascending {x : Int} {xs : List Int} : x ∈ ascending xs ↔ x ∈ xs := by
  induction xs with
  | nil => simp [ascending]
  | cons y ys ih =>
    have : ascending (y :: ys) = ascending.insertOnce y (ascending ys) := rfl
    rw [this, mem_insertOnce, ih, List.mem_cons]

theorem pairwise_insertOnce {y : Int} {ys : List Int} (h : ys.Pairwise (· < ·)) :
    (ascending.insertOnce y ys).Pairwise (· < ·) := by
  induction ys with
  | nil => simp [ascending.insertOnce]
  | cons z zs ih =>
    simp only [ascending.insertOnce]
    split
    · rename_i hlt
      refine List.pairwise_cons.2 ⟨fun x hx => ?_, h⟩
      rcases List.mem_cons.1 hx with rfl | hx
      · exact hlt
      · have := (List.pairwise_cons.1 h).1 x hx
        omega
    · split
      · exact h
      · rw [List.pairwise_cons] at h ⊢
        refine ⟨fun x hx => ?_, ih h.2⟩
        rcases mem_insertOnce.1 hx with rfl | hx
        · omega
        · exact h.1 x hx

theorem pairwise_ascending (xs : List Int) : (ascending xs).Pairwise (· < ·) := by
  induction xs with
  | nil => simp [ascending]
  | cons y ys ih => exact pairwise_insertOnce ih

end StatementTables
