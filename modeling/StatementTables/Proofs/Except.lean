import Mathlib.Data.List.Forall2

/-! # Computations that can fail

A step of a computation either stops it with an error (`bind_eq_error_iff`) or hands a value on
(`ok_bind`, `bind_eq_ok_iff`).  A list of computations hands on what its members do
(`mapM_eq_ok_iff`, `mapM_eq_ok`), if none of them stops (`forall_ok_of_mapM`); otherwise the first
error stops it (`mapM_eq_error_iff`). -/

namespace StatementTables

/-! ### Lists related entry by entry -/

section related
variable {α β : Type} {R : α → β → Prop} {xs : List α} {ys : List β}

theorem exists_of_mem_right (h : List.Forall₂ R xs ys) : ∀ y ∈ ys, ∃ x ∈ xs, R x y := by
  intro y hy
  obtain ⟨i, hi, rfl⟩ := List.mem_iff_getElem.mp hy
  have hi' : i < xs.length := h.length_eq ▸ hi
  exact ⟨xs[i], List.getElem_mem hi', h.get hi' hi⟩

theorem exists_of_mem_left (h : List.Forall₂ R xs ys) : ∀ x ∈ xs, ∃ y ∈ ys, R x y :=
  exists_of_mem_right h.flip

end related

namespace Except

/-! ### Computations -/

variable {ε α β : Type}

@[simp] theorem ok_bind (a : α) (f : α → Except ε β) : (Except.ok a >>= f) = f a := rfl

@[simp] theorem error_bind (e : ε) (f : α → Except ε β) :
    (Except.error e >>= f) = .error e := rfl

@[simp] theorem pure_eq_ok (a : α) : (pure a : Except ε α) = .ok a := rfl

theorem bind_eq_ok_iff {x : Except ε α} {f : α → Except ε β} {b : β} :
    x >>= f = .ok b ↔ ∃ a, x = .ok a ∧ f a = .ok b := by
  cases x with
  | error e => simp
  | ok a => simp

theorem bind_eq_error_iff {x : Except ε α} {f : α → Except ε β} {e : ε} :
    x >>= f = .error e ↔ x = .error e ∨ ∃ a, x = .ok a ∧ f a = .error e := by
  cases x with
  | error e' => simp
  | ok a => simp

theorem exists_eq_error_iff {x : Except ε α} : (∃ e, x = .error e) ↔ x.isOk = false := by
  cases x with
  | error e => exact ⟨fun _ => rfl, fun _ => ⟨e, rfl⟩⟩
  | ok a => exact ⟨nofun, nofun⟩

theorem mapError_eq_ok_iff {x : Except ε α} {f : ε → β} {a : α} :
    x.mapError f = .ok a ↔ x = .ok a := by
  cases x with
  | error e => exact ⟨nofun, nofun⟩
  | ok b =>
      constructor
      · rintro ⟨⟩
        rfl
      · rintro ⟨⟩
        rfl

theorem mapM_eq_ok_iff {f : α → Except ε β} {xs : List α} {ys : List β} :
    xs.mapM f = .ok ys ↔ List.Forall₂ (fun x y => f x = .ok y) xs ys := by
  induction xs generalizing ys with
  | nil =>
      rw [List.mapM_nil, pure_eq_ok, Except.ok.injEq, List.forall₂_nil_left_iff]
      exact eq_comm
  | cons x xs ih =>
      rw [List.mapM_cons, bind_eq_ok_iff, List.forall₂_cons_left_iff]
      simp only [bind_eq_ok_iff, ih, pure_eq_ok, Except.ok.injEq]
      constructor
      · rintro ⟨y, hy, ys, hys, rfl⟩
        exact ⟨y, ys, hy, hys, rfl⟩
      · rintro ⟨y, ys, hy, hys, rfl⟩
        exact ⟨y, hy, ys, hys, rfl⟩

theorem mapM_cons_eq_error_iff {f : α → Except ε β} {x : α} {xs : List α} {e : ε} :
    (x :: xs).mapM f = .error e ↔
      f x = .error e ∨ (∃ y, f x = .ok y) ∧ xs.mapM f = .error e := by
  rw [List.mapM_cons, bind_eq_error_iff]
  simp only [bind_eq_error_iff, pure_eq_ok, reduceCtorEq, and_false, exists_false, or_false,
    exists_and_right]

theorem mapM_eq_error_iff {f : α → Except ε β} {xs : List α} {e : ε} :
    xs.mapM f = .error e ↔ ∃ before x after, xs = before ++ x :: after ∧
      (∀ b ∈ before, ∃ y, f b = .ok y) ∧ f x = .error e := by
  induction xs with
  | nil => simp
  | cons first rest ih =>
      rw [mapM_cons_eq_error_iff, ih]
      constructor
      · rintro (hfirst | ⟨hfirst, before, x, after, rfl, hbefore, hx⟩)
        · exact ⟨[], first, rest, rfl, nofun, hfirst⟩
        · exact ⟨first :: before, x, after, rfl, List.forall_mem_cons.mpr ⟨hfirst, hbefore⟩, hx⟩
      · rintro ⟨before, x, after, hsplit, hbefore, hx⟩
        cases before with
        | nil =>
            cases hsplit
            exact .inl hx
        | cons b before =>
            cases hsplit
            obtain ⟨hfirst, hbefore⟩ := List.forall_mem_cons.mp hbefore
            exact .inr ⟨hfirst, before, x, after, rfl, hbefore, hx⟩

theorem exists_of_mem_mapM {f : α → Except ε β} {xs : List α} {ys : List β}
    (h : xs.mapM f = .ok ys) {y : β} (hy : y ∈ ys) : ∃ x ∈ xs, f x = .ok y :=
  exists_of_mem_right (mapM_eq_ok_iff.mp h) y hy

theorem forall_ok_of_mapM {f : α → Except ε β} {xs : List α} {ys : List β}
    (h : xs.mapM f = .ok ys) : ∀ x ∈ xs, ∃ y, f x = .ok y := by
  intro x hx
  obtain ⟨y, -, hy⟩ := exists_of_mem_left (mapM_eq_ok_iff.mp h) x hx
  exact ⟨y, hy⟩

theorem mapM_eq_ok {f : α → Except ε β} {g : α → β} {xs : List α}
    (h : ∀ x ∈ xs, f x = .ok (g x)) : xs.mapM f = .ok (xs.map g) := by
  rw [mapM_eq_ok_iff, List.forall₂_map_right_iff, List.forall₂_same]
  exact h

end Except

end StatementTables
