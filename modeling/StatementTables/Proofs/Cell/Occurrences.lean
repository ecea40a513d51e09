import Mathlib.Data.List.Basic
import StatementTables.Proofs.Cell.Preparation

/-! # Which cell of a position stays

The first pass of the preparation keeps the first of repeated cells, a later one the last cell of
each position.  So the cell that stays at a position is not the last that is listed there but the
last that is listed there for the first time (`ComesLast`, `comesLast_of_mem_sifted`), and the two
agree exactly if the last cell does not repeat one that another cell has come after
(`last_occurrence_iff`). -/

namespace StatementTables

namespace Preparation

/-- Where a cell is listed first, up to its value. -/
def firstListed (cells : List Cell) (c : Cell) : Nat :=
  (cells.map Cell.key).idxOf c.key

/-- No other cell of its position is listed for the first time after a cell is. -/
def ComesLast (cells : List Cell) (c : Cell) : Prop :=
  ∀ d ∈ cells, d.position = c.position → firstListed cells d ≤ firstListed cells c

instance (cells : List Cell) (c : Cell) : Decidable (ComesLast cells c) :=
  inferInstanceAs (Decidable (∀ d ∈ cells, d.position = c.position → _))

/-- The cells that are listed at a position. -/
def listedAt (cells : List Cell) (position : Int × Int) : List Cell :=
  cells.filter fun c => decide (c.position = position)

variable {cells : List Cell} {c d : Cell}

theorem firstListed_congr (h : c.key = d.key) : firstListed cells c = firstListed cells d := by
  unfold firstListed
  rw [h]

theorem firstListed_cons_of_ne (h : c.key ≠ d.key) :
    firstListed (c :: cells) d = firstListed cells d + 1 := by
  unfold firstListed
  rw [List.map_cons, List.idxOf_cons_ne _ h]

theorem key_eq_of_firstListed_eq (hc : c ∈ cells) (h : firstListed cells c = firstListed cells d) :
    c.key = d.key :=
  (List.idxOf_inj (List.mem_map_of_mem hc)).mp h

/-! ### The first of repeated cells -/

theorem notMem_of_mem_firstsBy {seen : List Cell.Key} (h : c ∈ firstsBy Cell.key seen cells) :
    c.key ∉ seen := by
  induction cells generalizing seen with
  | nil => cases h
  | cons first rest ih =>
      rw [firstsBy] at h
      split at h
      · exact ih h
      · rename_i hnew
        rcases List.mem_cons.mp h with rfl | h
        · simpa using hnew
        · exact fun hmem => ih h (List.mem_cons_of_mem _ hmem)

theorem exists_mem_firstsBy {seen : List Cell.Key} (hd : d ∈ cells) (hseen : d.key ∉ seen) :
    ∃ b ∈ firstsBy Cell.key seen cells, b.key = d.key := by
  induction cells generalizing seen with
  | nil => cases hd
  | cons first rest ih =>
      rw [firstsBy]
      by_cases hfirst : first.key = d.key
      · rw [if_neg (by simpa [hfirst] using hseen)]
        exact ⟨first, List.mem_cons_self, hfirst⟩
      · have hrest : d ∈ rest := (List.mem_cons.mp hd).resolve_left fun heq => hfirst (heq ▸ rfl)
        split
        · exact ih hrest hseen
        · have hseen' : d.key ∉ first.key :: seen := fun hmem =>
            (List.mem_cons.mp hmem).elim (fun heq => hfirst heq.symm) hseen
          obtain ⟨b, hb, hkey⟩ := ih hrest hseen'
          exact ⟨b, List.mem_cons_of_mem _ hb, hkey⟩

/-- Cells are kept in the order in which they are listed first. -/
theorem pairwise_firstsBy (seen : List Cell.Key) (cells : List Cell) :
    (firstsBy Cell.key seen cells).Pairwise
      fun a b => firstListed cells a < firstListed cells b := by
  induction cells generalizing seen with
  | nil => exact .nil
  | cons first rest ih =>
      -- none of the cells that are kept of the rest has the key of the first
      have hlater : ∀ seen', first.key ∈ seen' → (firstsBy Cell.key seen' rest).Pairwise fun a b =>
          firstListed (first :: rest) a < firstListed (first :: rest) b := by
        intro seen' hmem
        refine List.Pairwise.imp_of_mem (fun {a b} ha hb hlt => ?_) (ih seen')
        have hapart : ∀ x ∈ firstsBy Cell.key seen' rest, first.key ≠ x.key :=
          fun x hx heq => notMem_of_mem_firstsBy hx (heq ▸ hmem)
        rw [firstListed_cons_of_ne (hapart a ha), firstListed_cons_of_ne (hapart b hb)]
        omega
      rw [firstsBy]
      split
      · rename_i hmem
        exact hlater seen (by simpa using hmem)
      · refine List.pairwise_cons.mpr ⟨fun b hb => ?_, hlater _ List.mem_cons_self⟩
        have hne : first.key ≠ b.key :=
          fun heq => notMem_of_mem_firstsBy hb (heq ▸ List.mem_cons_self)
        have hfirst : firstListed (first :: rest) first = 0 :=
          List.idxOf_cons_eq _ rfl
        rw [hfirst, firstListed_cons_of_ne hne]
        omega

/-! ### The last cell of a position -/

theorem exists_split_of_mem_keepLast (h : c ∈ keepLastPerPosition cells) :
    ∃ before after, cells = before ++ c :: after ∧ ∀ d ∈ after, d.position ≠ c.position := by
  induction cells with
  | nil => cases h
  | cons first rest ih =>
      rw [keepLastPerPosition] at h
      have hrest : c ∈ keepLastPerPosition rest → ∃ before after,
          first :: rest = before ++ c :: after ∧ ∀ d ∈ after, d.position ≠ c.position := by
        intro hmem
        obtain ⟨before, after, rfl, hafter⟩ := ih hmem
        exact ⟨first :: before, after, rfl, hafter⟩
      split at h
      · exact hrest h
      · rename_i hlast
        rcases List.mem_cons.mp h with rfl | h
        · refine ⟨[], rest, rfl, fun d hd hposition => hlast ?_⟩
          exact List.any_eq_true.mpr ⟨d, hd, Cell.samePosition_iff.mpr hposition.symm⟩
        · exact hrest h

theorem mem_of_mem_sifted (h : c ∈ sifted cells) : c ∈ cells := by
  have hsifted : c ∈ dropRepeatedColumns (dropDuplicates cells) :=
    (keepLastPerPosition_sublist _).subset h
  exact (firstsBy_sublist Cell.key [] cells).subset (List.mem_of_mem_filter hsifted)

/-- The cell that stays at a position is the last that is listed there for the first time. -/
theorem comesLast_of_mem_sifted (h : c ∈ sifted cells) : ComesLast cells c := by
  obtain ⟨before, after, hsplit, hafter⟩ := exists_split_of_mem_keepLast h
  have hordered : (before ++ c :: after).Pairwise fun a b =>
      firstListed cells a < firstListed cells b := by
    rw [← hsplit]
    exact (pairwise_firstsBy [] cells).filter _
  intro d hd hposition
  obtain ⟨b, hb, hkey⟩ := exists_mem_firstsBy hd (@List.not_mem_nil _ d.key)
  have hb' : b.position = c.position := (Cell.position_of_key hkey).trans hposition
  -- whole columns are dropped, so `b` is left with `c`
  have hleft : b ∈ before ++ c :: after := by
    have hc : c ∈ dropRepeatedColumns (dropDuplicates cells) := by
      rw [hsplit]
      exact List.mem_append_right before List.mem_cons_self
    have hcol : b.col = c.col := congrArg Prod.snd hb'
    rw [← hsplit]
    refine List.mem_filter.mpr ⟨hb, ?_⟩
    rw [hcol]
    exact (List.mem_filter.mp hc).2
  rw [← firstListed_congr hkey]
  obtain ⟨-, -, hbefore⟩ := List.pairwise_append.mp hordered
  rcases List.mem_append.mp hleft with hmem | hmem
  · exact Nat.le_of_lt (hbefore b hmem c List.mem_cons_self)
  · rcases List.mem_cons.mp hmem with rfl | hmem
    · exact Nat.le_refl _
    · exact absurd hb' (hafter b hmem)

end Preparation

open Preparation

theorem Cell.eq_of_key {a b : Cell} (hkey : a.key = b.key) (hvalue : a.value = b.value) :
    a = b := by
  cases a
  cases b
  simp only [Cell.key, Key.mk.injEq] at hkey hvalue
  obtain ⟨rfl, rfl, rfl, rfl, rfl, rfl, rfl, rfl⟩ := hkey
  rw [hvalue]

/-- **Which cell stays.**  The cell that is left at a position is one of those listed there.  Up to
its value it is the last of them exactly if none of them is listed for the first time after that
one is; where values are read from the texts of cells, it is then the last of them itself, with an
empty control filled. -/
theorem last_occurrence_iff {rules : Rules} {cells : List Cell} {c : Cell}
    (h : c ∈ prepareCells rules cells) :
    ∃ source last, source ∈ cells ∧ c = fillControl source ∧
      (listedAt cells c.position).getLast? = some last ∧
      (c.key = last.key ↔ ComesLast cells last) ∧
      ((∀ d ∈ cells, d.value = Scalar.normalizeScalar d.raw) →
        (c = fillControl last ↔ ComesLast cells last)) := by
  obtain ⟨source, hsifted, rfl⟩ := exists_of_mem_prepareCells h
  have hsource : source ∈ cells := mem_of_mem_sifted hsifted
  have hlatest : ComesLast cells source := comesLast_of_mem_sifted hsifted
  have hposition : (fillControl source).position = source.position :=
    Cell.position_of_key (fillControl_key source)
  have hlisted : source ∈ listedAt cells source.position :=
    List.mem_filter.mpr ⟨hsource, decide_eq_true rfl⟩
  obtain ⟨last, hlast⟩ : ∃ last, (listedAt cells source.position).getLast? = some last :=
    Option.ne_none_iff_exists'.mp fun hnone =>
      List.ne_nil_of_mem hlisted (List.getLast?_eq_none_iff.mp hnone)
  obtain ⟨hmem, hthere⟩ := List.mem_filter.mp (List.mem_of_getLast? hlast)
  have hthere' : last.position = source.position := of_decide_eq_true hthere
  have hkey : source.key = last.key ↔ ComesLast cells last := by
    constructor
    · intro heq d hd hd'
      rw [← firstListed_congr heq]
      exact hlatest d hd (hd'.trans hthere')
    · intro hcomes
      refine key_eq_of_firstListed_eq hsource (Nat.le_antisymm ?_ ?_)
      · exact hcomes source hsource hthere'.symm
      · exact hlatest last hmem hthere'
  refine ⟨source, last, hsource, rfl, hposition ▸ hlast, ?_, fun hvalues => ?_⟩
  · rw [fillControl_key]
    exact hkey
  · rw [← hkey]
    constructor
    · intro heq
      rw [← fillControl_key source, heq, fillControl_key]
    · intro heq
      have hraw : source.raw = last.raw := congrArg Cell.Key.raw heq
      have hvalue : source.value = last.value := by
        rw [hvalues source hsource, hvalues last hmem, hraw]
      rw [Cell.eq_of_key heq hvalue]

/-- An amount as it is listed for one position. -/
def amount (raw : String) : Cell :=
  .ofSource "B2" 2 2 .body raw "" "" true

/-- An empty form control for the same position. -/
def emptyControl : Cell :=
  .ofSource "B2" 2 2 .body "" "" "FormControl" true

/-- An amount and a control by turns: each is listed twice, and the control is the last. -/
theorem last_occurrence_iff_turns :
    let cells := [amount "5", emptyControl, amount "5", emptyControl]
    prepareCells defaultRules cells = [emptyControl.withValue (.number 0)] ∧
      ∃ last, (listedAt cells (2, 2)).getLast? = some last ∧
        emptyControl.withValue (.number 0) = fillControl last := by
  intro cells
  have hprepared : prepareCells defaultRules cells = [emptyControl.withValue (.number 0)] := rfl
  have hmem : emptyControl.withValue (.number 0) ∈ prepareCells defaultRules cells :=
    hprepared ▸ List.mem_cons_self
  obtain ⟨source, last, -, -, hlast, -, hfilled⟩ := last_occurrence_iff hmem
  have hvalues : ∀ d ∈ cells, d.value = Scalar.normalizeScalar d.raw := by
    simp [cells, amount, emptyControl, Cell.ofSource]
  refine ⟨hprepared, last, hlast, (hfilled hvalues).mpr ?_⟩
  have hcontrol : last = emptyControl := (Option.some_inj.mp hlast).symm
  rw [hcontrol]
  decide +kernel

/-- Listed once more, the first of two amounts is the last one there, but the other one stays. -/
theorem repeated_cell_passed_over :
    let cells := [amount "5", amount "6", amount "5"]
    prepareCells defaultRules cells = [amount "6"] ∧
      (listedAt cells (2, 2)).getLast? = some (amount "5") ∧ ¬ ComesLast cells (amount "5") :=
  ⟨rfl, rfl, by decide +kernel⟩

end StatementTables
