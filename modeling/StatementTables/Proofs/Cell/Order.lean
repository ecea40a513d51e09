import Mathlib.Data.List.Sort
import StatementTables.Proofs.Cell.Preparation
import StatementTables.Proofs.Table.Pivot

/-! # Preparing cells in another order

Where no two cells stand at one position, one pass alone sees the order in which a table lists its
cells: `dropRepeatedColumns` compares the contents of columns as lists.  Two listings with the same
repeated columns (`SameRepeats`) are prepared to the same cells (`prepareCells_perm`).  All listings
of a table have the same repeated columns exactly if it has no two columns of several cells that
differ in the order of their content at most (`sameRepeats_iff_noTwins`). -/

namespace StatementTables

namespace Preparation

variable {rules : Rules} {cells moved : List Cell}

/-- The same columns of two listings repeat one to their left. -/
def SameRepeats (cells moved : List Cell) : Prop :=
  ∀ x ∈ columns cells, repeatsColumn moved x = repeatsColumn cells x

/-- Two columns with the same content, but for its order, have one cell each. -/
def NoTwins (cells : List Cell) : Prop :=
  ∀ x ∈ columns cells, ∀ y ∈ columns cells, x < y →
    (content cells x).Perm (content cells y) → (content cells x).length ≤ 1

/-! ### Each pass -/

/-- Without repeated cells, columns are all that is sifted out. -/
theorem sifted_eq (hpositions : (cells.map Cell.position).Nodup) :
    sifted cells = dropRepeatedColumns cells := by
  unfold sifted
  rw [dropDuplicates_eq_self hpositions]
  exact keepLastPerPosition_eq_self ((List.filter_sublist.map Cell.position).nodup hpositions)

theorem keys_prepareCells_sublist (hpositions : (cells.map Cell.position).Nodup) :
    ((prepareCells rules cells).map Cell.key).Sublist (cells.map Cell.key) := by
  rw [keys_prepareCells, sifted_eq hpositions]
  exact (List.filter_sublist.trans List.filter_sublist).map Cell.key

section passes
variable (h : moved.Perm cells)
include h

theorem columns_eq_of_perm : columns moved = columns cells :=
  ascending_congr fun _ => (h.map Cell.col).mem_iff

theorem content_perm (x : Int) : (content moved x).Perm (content cells x) :=
  (h.filter _).map _

theorem dropRepeatedColumns_perm (hsame : SameRepeats cells moved) :
    (dropRepeatedColumns moved).Perm (dropRepeatedColumns cells) := by
  have hkept : moved.filter (fun c => !repeatsColumn moved c.col) =
      moved.filter fun c => !repeatsColumn cells c.col :=
    List.filter_congr fun c hc => by
      rw [hsame c.col (columns_eq_of_perm h ▸ mem_ascending.mpr (List.mem_map_of_mem hc))]
  rw [dropRepeatedColumns_eq, dropRepeatedColumns_eq, hkept]
  exact h.filter _

theorem dropDeviationColumns_perm :
    (dropDeviationColumns rules moved).Perm (dropDeviationColumns rules cells) := by
  have hcolumns : (deviationColumns rules moved).Perm (deviationColumns rules cells) :=
    (h.filter _).map _
  have hdropped : moved.filter (fun c => !(deviationColumns rules moved).contains c.col) =
      moved.filter fun c => !(deviationColumns rules cells).contains c.col :=
    List.filter_congr fun c _ => by rw [hcolumns.contains_eq]
  unfold dropDeviationColumns
  rw [hdropped]
  exact h.filter _

theorem nodup_positions_of_perm (hpositions : (cells.map Cell.position).Nodup) :
    (moved.map Cell.position).Nodup :=
  (h.map Cell.position).nodup_iff.mpr hpositions

theorem sifted_perm (hpositions : (cells.map Cell.position).Nodup)
    (hsame : SameRepeats cells moved) : (sifted moved).Perm (sifted cells) := by
  rw [sifted_eq hpositions, sifted_eq (nodup_positions_of_perm h hpositions)]
  exact dropRepeatedColumns_perm h hsame

/-- Two listings with the same repeated columns are prepared to the same cells. -/
theorem prepareCells_perm (hpositions : (cells.map Cell.position).Nodup)
    (hsame : SameRepeats cells moved) :
    (prepareCells rules moved).Perm (prepareCells rules cells) :=
  (dropDeviationColumns_perm (sifted_perm h hpositions hsame)).map fillControl

end passes

/-! ### Twin columns -/

theorem eq_of_perm_of_length_le_one {α : Type} {l l' : List α} (h : l.Perm l')
    (hlength : l.length ≤ 1) : l = l' := by
  match l, hlength with
  | [], _ => exact h.nil_eq
  | [a], _ => exact (List.perm_singleton.mp h.symm).symm

theorem NoTwins.content_eq_iff (h : NoTwins cells) {x y : Int} (hx : x ∈ columns cells)
    (hy : y ∈ columns cells) (hlt : x < y) :
    content cells x = content cells y ↔ (content cells x).Perm (content cells y) :=
  ⟨fun heq => heq ▸ List.Perm.refl _,
    fun hperm => eq_of_perm_of_length_le_one hperm (h x hx y hy hlt hperm)⟩

theorem NoTwins.of_perm (h : NoTwins cells) (hperm : moved.Perm cells) : NoTwins moved := by
  intro x hx y hy hlt htwins
  rw [columns_eq_of_perm hperm] at hx hy
  rw [(content_perm hperm x).length_eq]
  exact h x hx y hy hlt
    (((content_perm hperm x).symm.trans htwins).trans (content_perm hperm y))

theorem NoTwins.sameRepeats (h : NoTwins cells) (hperm : moved.Perm cells) :
    SameRepeats cells moved := by
  intro y hy
  have hcolumns := columns_eq_of_perm hperm
  have hcontent : ∀ x ∈ columns cells, x < y →
      (content moved x = content moved y ↔ content cells x = content cells y) := by
    intro x hx hlt
    rw [(h.of_perm hperm).content_eq_iff (hcolumns ▸ hx) (hcolumns ▸ hy) hlt,
      h.content_eq_iff hx hy hlt, (content_perm hperm x).congr_left,
      (content_perm hperm y).congr_right]
  rw [Bool.eq_iff_iff, repeatsColumn_iff, repeatsColumn_iff, hcolumns]
  exact exists_congr fun x => and_congr_right fun hx => and_congr_right fun hlt =>
    hcontent x hx hlt

/-- The cells in ascending order of a number. -/
def listedBy (key : Cell → Int) (cells : List Cell) : List Cell :=
  cells.mergeSort fun c d => decide (key c ≤ key d)

theorem listedBy_perm (key : Cell → Int) (cells : List Cell) : (listedBy key cells).Perm cells :=
  List.mergeSort_perm cells _

theorem pairwise_listedBy (key : Cell → Int) (cells : List Cell) :
    (listedBy key cells).Pairwise fun c d => key c ≤ key d := by
  have hsorted : (listedBy key cells).Pairwise fun c d => decide (key c ≤ key d) = true := by
    apply List.pairwise_mergeSort
    · intro a b c hab hbc
      simp only [decide_eq_true_eq] at hab hbc ⊢
      exact hab.trans hbc
    · intro a b
      simpa using Int.le_total (key a) (key b)
  exact hsorted.imp of_decide_eq_true

/-- In a listing by a number, the rows of a column stand as the number puts them. -/
theorem pairwise_content_listedBy {R : Int → Int → Prop} {key : Cell → Int} {x : Int}
    (hpositions : (cells.map Cell.position).Nodup)
    (hkey : ∀ c d : Cell, c.col = x → d.col = x → key c ≤ key d → c.row ≠ d.row → R c.row d.row) :
    (content (listedBy key cells) x).Pairwise fun p q => R p.2 q.2 := by
  have hapart : (listedBy key cells).Pairwise fun c d => c.position ≠ d.position :=
    List.pairwise_map.mp (nodup_positions_of_perm (listedBy_perm key cells) hpositions)
  unfold content
  rw [List.pairwise_map, List.pairwise_filter]
  refine ((pairwise_listedBy key cells).and hapart).imp ?_
  rintro c d ⟨hle, hne⟩ hc hd
  rw [beq_iff_eq] at hc hd
  exact hkey c d hc hd hle fun hrow => hne (Prod.ext hrow (hc.trans hd.symm))

theorem length_le_one_of_ascends_descends {l : List (String × Int)}
    (hascends : l.Pairwise fun p q => p.2 < q.2) (hdescends : l.Pairwise fun p q => q.2 < p.2) :
    l.length ≤ 1 := by
  match l with
  | [] | [_] => simp
  | p :: q :: _ =>
      have hlt := (List.pairwise_cons.mp hascends).1 q List.mem_cons_self
      have hgt := (List.pairwise_cons.mp hdescends).1 q List.mem_cons_self
      omega

/-- All listings of a table have the same repeated columns exactly if it has no twin columns. -/
theorem sameRepeats_iff_noTwins (hpositions : (cells.map Cell.position).Nodup) :
    (∀ moved : List Cell, moved.Perm cells → SameRepeats cells moved) ↔ NoTwins cells := by
  refine ⟨fun hsame x hx y hy hlt htwins => ?_, fun h moved hperm => h.sameRepeats hperm⟩
  -- listed by rows the twins are equal; then the right one is turned around, and equals no other
  let turned : Cell → Int := fun c => if c.col = y then -c.row else c.row
  have hrows := listedBy_perm Cell.row cells
  have hturned := listedBy_perm turned cells
  have hequal : content (listedBy Cell.row cells) x = content (listedBy Cell.row cells) y := by
    have hascends : ∀ z, (content (listedBy Cell.row cells) z).Pairwise fun p q => p.2 < q.2 :=
      fun z => pairwise_content_listedBy hpositions fun c d _ _ hle hne => by omega
    refine List.Perm.eq_of_pairwise (fun p q _ _ hpq hqp => by omega) (hascends x) (hascends y) ?_
    exact (content_perm hrows x).trans (htwins.trans (content_perm hrows y).symm)
  have hrepeats : repeatsColumn (listedBy Cell.row cells) y = true :=
    repeatsColumn_iff.mpr ⟨x, columns_eq_of_perm hrows ▸ hx, hlt, hequal⟩
  rw [hsame _ hrows y hy, ← hsame _ hturned y hy] at hrepeats
  obtain ⟨z, -, hzy, hcontent⟩ := repeatsColumn_iff.mp hrepeats
  have hascends : (content (listedBy turned cells) z).Pairwise fun p q => p.2 < q.2 :=
    pairwise_content_listedBy hpositions fun c d hc hd hle hne => by
      simp only [turned, hc, hd, hzy.ne, if_false] at hle
      omega
  have hdescends : (content (listedBy turned cells) y).Pairwise fun p q => q.2 < p.2 :=
    pairwise_content_listedBy (R := fun a b => b < a) hpositions fun c d hc hd hle hne => by
      simp only [turned, hc, hd, if_true] at hle
      omega
  rw [htwins.length_eq, ← (content_perm hturned y).length_eq]
  exact length_le_one_of_ascends_descends (hcontent ▸ hascends) hdescends

end Preparation

end StatementTables
