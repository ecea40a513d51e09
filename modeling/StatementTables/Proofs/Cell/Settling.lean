import StatementTables.Proofs.Cell.Occurrences
import StatementTables.Proofs.Cell.Selection

/-! # Preparing prepared cells

Columns are compared before the cells of a position are sorted out.  So two columns that differ in
an overridden cell are both left, and may be the same afterwards: then a second preparation drops
the right one.  It does nothing else, and a third finds nothing to do (`prepareCells_prepareCells`).
One preparation is enough exactly if the columns that remain differ in what their last cells say
(`prepareCells_final_iff`). -/

namespace StatementTables

namespace Preparation

variable {rules : Rules} {cells : List Cell} {c : Cell} {x : Int}

/-- No column has the content of one to its left. -/
def NoRepeats (cells : List Cell) : Prop :=
  ∀ a ∈ cells, ∀ b ∈ cells, a.col < b.col → content cells a.col ≠ content cells b.col

/-! ### A second preparation -/

/-- A column that is kept keeps all its content. -/
theorem content_filter (keep : Int → Bool) (hx : keep x = true) :
    content (cells.filter fun c => keep c.col) x = content cells x := by
  unfold content
  rw [List.filter_filter]
  refine congrArg (List.map _) (List.filter_congr fun c _ => ?_)
  by_cases hcol : c.col = x
  · rw [hcol, hx, Bool.and_true]
  · rw [beq_eq_false_iff_ne.mpr hcol, Bool.false_and]

theorem noRepeats_dropRepeatedColumns (cells : List Cell) :
    NoRepeats (dropRepeatedColumns cells) := by
  have hcontent : ∀ c ∈ dropRepeatedColumns cells,
      content (dropRepeatedColumns cells) c.col = content cells c.col :=
    fun c hc => content_filter (fun x => (freshColumns cells).contains x)
      (List.mem_filter.mp hc).2
  intro a ha b hb hlt
  rw [hcontent a ha, hcontent b hb]
  rw [dropRepeatedColumns_eq_filter, List.mem_filter] at ha hb
  exact of_decide_eq_true hb.2 a ha.1 hlt

theorem dropRepeatedColumns_eq_self_iff : dropRepeatedColumns cells = cells ↔ NoRepeats cells :=
  ⟨fun h => h ▸ noRepeats_dropRepeatedColumns cells, dropRepeatedColumns_eq_self⟩

theorem isDeviation_of_mem_prepareCells (h : c ∈ prepareCells rules cells)
    (hheader : c.group = .header) : rules.isDeviation c.raw = false := by
  obtain ⟨source, hsource, rfl⟩ := List.mem_map.mp h
  rw [dropDeviationColumns_eq_filter, List.mem_filter] at hsource
  have hgroup : source.group = .header :=
    (congrArg Cell.Key.group (fillControl_key source)).symm.trans hheader
  have hraw : (fillControl source).raw = source.raw :=
    congrArg Cell.Key.raw (fillControl_key source)
  rw [hraw]
  exact of_decide_eq_true hsource.2 source hsource.1 rfl hgroup

theorem fillControl_of_mem_prepareCells (h : c ∈ prepareCells rules cells) : fillControl c = c := by
  obtain ⟨source, -, rfl⟩ := List.mem_map.mp h
  by_cases hcontrol : source.valueType = "FormControl" ∧ Text.isBlank source.raw = true
  · rw [fillControl_eq source, if_pos hcontrol]
    exact (fillControl_eq _).trans (if_pos hcontrol)
  · rw [fillControl_eq source, if_neg hcontrol, fillControl_eq, if_neg hcontrol]

/-- A second preparation drops repeated columns, and nothing else. -/
theorem prepareCells_prepareCells (rules : Rules) (cells : List Cell) :
    prepareCells rules (prepareCells rules cells) =
      dropRepeatedColumns (prepareCells rules cells) := by
  have hnodup := prepareCells_nodup rules cells
  have hkept : ((dropRepeatedColumns (prepareCells rules cells)).map Cell.position).Nodup :=
    (List.filter_sublist.map Cell.position).nodup hnodup
  have hplain : ∀ c ∈ dropRepeatedColumns (prepareCells rules cells), c.group = .header →
      rules.isDeviation c.raw = false := fun c hc =>
    isDeviation_of_mem_prepareCells (List.mem_of_mem_filter hc)
  rw [prepareCells, dropDuplicates_eq_self hnodup, keepLastPerPosition_eq_self hkept,
    dropDeviationColumns_eq_self hplain]
  have hfilled : ∀ c ∈ dropRepeatedColumns (prepareCells rules cells), fillControl c = id c :=
    fun c hc => fillControl_of_mem_prepareCells (List.mem_of_mem_filter hc)
  rw [List.map_congr_left hfilled, List.map_id]

/-! ### The columns that remain -/

/-- The last of the new cells at each position. -/
def resolved (cells : List Cell) : List Cell :=
  keepLastPerPosition (dropDuplicates cells)

/-- A column that is left: as it is listed it repeats none to its left, and no header cell compares
periods that is the last at its position. -/
structure Remains (rules : Rules) (cells : List Cell) (x : Int) : Prop where
  listed : ∃ c ∈ cells, c.col = x
  leftmost : ∀ c ∈ dropDuplicates cells, c.col < x →
    content (dropDuplicates cells) c.col ≠ content (dropDuplicates cells) x
  plain : ∀ c ∈ resolved cells, c.col = x → c.group = .header → rules.isDeviation c.raw = false

/-- Whole columns can be dropped before or after. -/
theorem keepLastPerPosition_filter (keep : Int → Bool) (cells : List Cell) :
    keepLastPerPosition (cells.filter fun c => keep c.col) =
      (keepLastPerPosition cells).filter fun c => keep c.col := by
  induction cells with
  | nil => rfl
  | cons first rest ih =>
      by_cases hkeep : keep first.col = true
      · -- cells at the position of a kept cell are kept
        have hany : (rest.filter fun c => keep c.col).any first.samePosition =
            rest.any first.samePosition := by
          rw [Bool.eq_iff_iff, List.any_eq_true, List.any_eq_true]
          constructor
          · rintro ⟨c, hc, hsame⟩
            exact ⟨c, List.mem_of_mem_filter hc, hsame⟩
          · rintro ⟨c, hc, hsame⟩
            have hcol : first.col = c.col := congrArg Prod.snd (Cell.samePosition_iff.mp hsame)
            exact ⟨c, List.mem_filter.mpr ⟨hc, hcol ▸ hkeep⟩, hsame⟩
        rw [List.filter_cons, if_pos hkeep, keepLastPerPosition, keepLastPerPosition, hany, ih]
        split
        · rfl
        · rw [List.filter_cons, if_pos hkeep]
      · rw [List.filter_cons, if_neg hkeep, keepLastPerPosition, ih]
        split
        · rfl
        · rw [List.filter_cons, if_neg hkeep]

theorem exists_mem_keepLastPerPosition {d : Cell} (h : d ∈ cells) :
    ∃ c ∈ keepLastPerPosition cells, c.position = d.position := by
  induction cells generalizing d with
  | nil => cases h
  | cons first rest ih =>
      have hrest : ∀ {e}, e ∈ rest → ∃ c ∈ keepLastPerPosition (first :: rest),
          c.position = e.position := by
        intro e he
        obtain ⟨c, hc, hposition⟩ := ih he
        refine ⟨c, ?_, hposition⟩
        rw [keepLastPerPosition]
        split
        · exact hc
        · exact List.mem_cons_of_mem _ hc
      rcases List.mem_cons.mp h with rfl | h
      · by_cases hlast : rest.any d.samePosition = true
        · obtain ⟨e, he, hsame⟩ := List.any_eq_true.mp hlast
          rw [Cell.samePosition_iff.mp hsame]
          exact hrest he
        · refine ⟨d, ?_, rfl⟩
          rw [keepLastPerPosition, if_neg hlast]
          exact List.mem_cons_self
      · exact hrest h

/-- Every column that is listed has a cell that is not overridden. -/
theorem exists_resolved_iff : (∃ c ∈ resolved cells, c.col = x) ↔ ∃ c ∈ cells, c.col = x := by
  constructor
  · rintro ⟨c, hc, hcol⟩
    have hfirst : c ∈ dropDuplicates cells := (keepLastPerPosition_sublist _).subset hc
    exact ⟨c, (firstsBy_sublist Cell.key [] cells).subset hfirst, hcol⟩
  · rintro ⟨d, hd, rfl⟩
    obtain ⟨b, hb, hkey⟩ := exists_mem_firstsBy hd (@List.not_mem_nil _ d.key)
    obtain ⟨c, hc, hposition⟩ := exists_mem_keepLastPerPosition hb
    have hcol : c.col = b.col := congrArg Prod.snd hposition
    exact ⟨c, hc, hcol.trans (congrArg Cell.Key.col hkey)⟩

/-- Whether a column is left by the passes that drop columns. -/
def keepsColumn (rules : Rules) (cells : List Cell) (x : Int) : Bool :=
  decide (∀ c ∈ dropDuplicates cells, c.col < x →
    content (dropDuplicates cells) c.col ≠ content (dropDuplicates cells) x) &&
  decide (∀ c ∈ resolved cells, c.col = x → c.group = .header → rules.isDeviation c.raw = false)

theorem remains_iff :
    Remains rules cells x ↔
      (∃ c ∈ resolved cells, c.col = x) ∧ keepsColumn rules cells x = true := by
  rw [exists_resolved_iff, keepsColumn, Bool.and_eq_true, decide_eq_true_iff, decide_eq_true_iff]
  exact ⟨fun h => ⟨h.listed, h.leftmost, h.plain⟩, fun h => ⟨h.1, h.2.1, h.2.2⟩⟩

theorem sifted_eq_filter (cells : List Cell) :
    sifted cells = (resolved cells).filter fun c => decide (∀ d ∈ dropDuplicates cells,
      d.col < c.col →
        content (dropDuplicates cells) d.col ≠ content (dropDuplicates cells) c.col) := by
  rw [sifted, dropRepeatedColumns_eq_filter]
  exact keepLastPerPosition_filter (fun x => decide (∀ d ∈ dropDuplicates cells, d.col < x →
    content (dropDuplicates cells) d.col ≠ content (dropDuplicates cells) x)) _

/-- Apart from their values, the cells that are left are those of the columns that are. -/
theorem keys_prepareCells_resolved (rules : Rules) (cells : List Cell) :
    (prepareCells rules cells).map Cell.key =
      ((resolved cells).filter fun c => keepsColumn rules cells c.col).map Cell.key := by
  have hkeys : (prepareCells rules cells).map Cell.key =
      (dropDeviationColumns rules (sifted cells)).map Cell.key := keys_prepareCells rules cells
  rw [hkeys, dropDeviationColumns_eq_filter, sifted_eq_filter, List.filter_filter]
  refine congrArg (List.map Cell.key) (List.filter_congr fun c _ => ?_)
  rw [keepsColumn, Bool.and_comm, Bool.eq_iff_iff, Bool.and_eq_true, Bool.and_eq_true]
  -- in a column that repeats none to its left nothing is missing yet
  refine and_congr_right fun hleftmost => ?_
  rw [decide_eq_true_iff, decide_eq_true_iff]
  refine forall_congr' fun d => ?_
  rw [List.mem_filter, and_imp]
  exact forall_congr' fun _ => ⟨fun h hcol => h (by rwa [hcol]) hcol, fun h _ => h⟩

theorem content_congr {cells' : List Cell} (h : cells.map Cell.key = cells'.map Cell.key)
    (x : Int) :
    content cells x = content cells' x :=
  Cell.map_eq_of_keys (Cell.filter_keys h fun k => k.col == x) fun k => (k.raw, k.row)

/-- A column that remains says what its last cells say. -/
theorem content_prepareCells (h : Remains rules cells x) :
    content (prepareCells rules cells) x = content (resolved cells) x := by
  rw [content_congr (keys_prepareCells_resolved rules cells)]
  exact content_filter (keepsColumn rules cells) (remains_iff.mp h).2

theorem exists_mem_prepareCells_iff :
    (∃ c ∈ prepareCells rules cells, c.col = x) ↔ Remains rules cells x := by
  have hcolumns : (prepareCells rules cells).map Cell.col =
      ((resolved cells).filter fun c => keepsColumn rules cells c.col).map Cell.col :=
    Cell.map_eq_of_keys (keys_prepareCells_resolved rules cells) Cell.Key.col
  rw [remains_iff, ← List.mem_map, hcolumns]
  simp only [List.mem_map, List.mem_filter]
  constructor
  · rintro ⟨c, ⟨hc, hkeeps⟩, rfl⟩
    exact ⟨⟨c, hc, rfl⟩, hkeeps⟩
  · rintro ⟨⟨c, hc, rfl⟩, hkeeps⟩
    exact ⟨c, ⟨hc, hkeeps⟩, rfl⟩

theorem noRepeats_prepareCells_iff :
    NoRepeats (prepareCells rules cells) ↔ ∀ x y, Remains rules cells x → Remains rules cells y →
      x < y → content (resolved cells) x ≠ content (resolved cells) y := by
  constructor
  · intro h x y hx hy hlt
    obtain ⟨a, ha, rfl⟩ := exists_mem_prepareCells_iff.mpr hx
    obtain ⟨b, hb, rfl⟩ := exists_mem_prepareCells_iff.mpr hy
    rw [← content_prepareCells hx, ← content_prepareCells hy]
    exact h a ha b hb hlt
  · intro h a ha b hb hlt
    have hx : Remains rules cells a.col := exists_mem_prepareCells_iff.mp ⟨a, ha, rfl⟩
    have hy : Remains rules cells b.col := exists_mem_prepareCells_iff.mp ⟨b, hb, rfl⟩
    rw [content_prepareCells hx, content_prepareCells hy]
    exact h _ _ hx hy hlt

/-! ### Overridden cells -/

/-- A column in which no cell is overridden. -/
def Unoverridden (cells : List Cell) (x : Int) : Prop :=
  ∀ a ∈ cells, ∀ b ∈ cells, a.col = x → a.position = b.position → a.key = b.key

theorem content_resolved (h : Unoverridden cells x) :
    content (resolved cells) x = content (dropDuplicates cells) x := by
  have hnodup : (((dropDuplicates cells).filter fun c => c.col == x).map Cell.position).Nodup := by
    rw [List.Nodup, List.pairwise_map, List.pairwise_filter]
    refine List.Pairwise.imp_of_mem (fun {a b} ha hb hlt hcol _ hposition => ?_)
      (pairwise_firstsBy [] cells)
    have hmem : ∀ {c}, c ∈ dropDuplicates cells → c ∈ cells := fun hc =>
      (firstsBy_sublist Cell.key [] cells).subset hc
    have hkey := h a (hmem ha) b (hmem hb) (by simpa using hcol) hposition
    exact absurd (firstListed_congr hkey) (Nat.ne_of_lt hlt)
  unfold content resolved
  rw [← keepLastPerPosition_filter (· == x), keepLastPerPosition_eq_self hnodup]

/-- Columns that come to say the same say so because a cell of one of them is overridden. -/
theorem Remains.overridden {y : Int} (hx : Remains rules cells x) (hy : Remains rules cells y)
    (hlt : x < y) (hsame : content (resolved cells) x = content (resolved cells) y) :
    ¬ (Unoverridden cells x ∧ Unoverridden cells y) := by
  rintro ⟨hplain, hplain'⟩
  rw [content_resolved hplain, content_resolved hplain'] at hsame
  obtain ⟨c, hc, rfl⟩ := hx.listed
  obtain ⟨b, hb, hkey⟩ := exists_mem_firstsBy hc (@List.not_mem_nil _ c.key)
  have hcol : b.col = c.col := congrArg Cell.Key.col hkey
  exact hy.leftmost b hb (hcol ▸ hlt) (hcol ▸ hsame)

end Preparation

open Preparation

/-- **Preparing cells again.**  What is prepared has no repeated columns exactly if another
preparation leaves it as it is, and that is so exactly if the columns that remain differ in what
their last cells say.  Where two of them do not, a cell of one is overridden.  What is prepared
twice has no repeated columns, and is final. -/
theorem prepareCells_final_iff (rules : Rules) (cells : List Cell) :
    let prepared := prepareCells rules cells
    (NoRepeats prepared ↔ prepareCells rules prepared = prepared) ∧
    (NoRepeats prepared ↔ ∀ x y, Remains rules cells x → Remains rules cells y → x < y →
      content (resolved cells) x ≠ content (resolved cells) y) ∧
    (∀ x y, Remains rules cells x → Remains rules cells y → x < y →
      content (resolved cells) x = content (resolved cells) y →
        ¬ (Unoverridden cells x ∧ Unoverridden cells y)) ∧
    NoRepeats (prepareCells rules prepared) ∧
    prepareCells rules (prepareCells rules prepared) = prepareCells rules prepared := by
  intro prepared
  have hagain : ∀ cells, prepareCells rules (prepareCells rules cells) =
      dropRepeatedColumns (prepareCells rules cells) := prepareCells_prepareCells rules
  have hsecond : NoRepeats (prepareCells rules prepared) := by
    rw [hagain cells]
    exact noRepeats_dropRepeatedColumns _
  refine ⟨?_, noRepeats_prepareCells_iff, fun x y hx hy => hx.overridden hy, hsecond, ?_⟩
  · rw [hagain cells]
    exact dropRepeatedColumns_eq_self_iff.symm
  · rw [hagain prepared]
    exact dropRepeatedColumns_eq_self_iff.mpr hsecond

/-- An amount in the next column. -/
def nextAmount (raw : String) : Cell :=
  .ofSource "C2" 2 3 .body raw "" "" true

/-- An amount that overrides another, and makes its column the same as the next one. -/
def overriddenTwins : List Cell :=
  [amount "5", amount "6", nextAmount "6"]

/-- Both columns remain at first. -/
theorem prepareCells_final_iff_twins :
    (Remains defaultRules overriddenTwins 2 ∧ Remains defaultRules overriddenTwins 3) ∧
      content (resolved overriddenTwins) 2 = content (resolved overriddenTwins) 3 ∧
      ¬ (Unoverridden overriddenTwins 2 ∧ Unoverridden overriddenTwins 3) ∧
      NoRepeats (prepareCells defaultRules (prepareCells defaultRules overriddenTwins)) := by
  obtain ⟨-, -, hoverridden, hsecond, -⟩ := prepareCells_final_iff defaultRules overriddenTwins
  have hleft : Remains defaultRules overriddenTwins 2 :=
    ⟨by decide +kernel, by decide +kernel, by decide +kernel⟩
  have hright : Remains defaultRules overriddenTwins 3 :=
    ⟨by decide +kernel, by decide +kernel, by decide +kernel⟩
  have hsame : content (resolved overriddenTwins) 2 = content (resolved overriddenTwins) 3 := by
    decide +kernel
  exact ⟨⟨hleft, hright⟩, hsame, hoverridden 2 3 hleft hright (by decide) hsame, hsecond⟩

/-- The right one of them stays until the cells are prepared again. -/
theorem overridden_twin_kept :
    prepareCells defaultRules overriddenTwins = [amount "6", nextAmount "6"] ∧
      ¬ NoRepeats (prepareCells defaultRules overriddenTwins) ∧
      prepareCells defaultRules (prepareCells defaultRules overriddenTwins) = [amount "6"] ∧
      prepareCells defaultRules (prepareCells defaultRules overriddenTwins) ≠
        prepareCells defaultRules overriddenTwins := by
  have hprepared : prepareCells defaultRules overriddenTwins = [amount "6", nextAmount "6"] := rfl
  have hagain : prepareCells defaultRules [amount "6", nextAmount "6"] = [amount "6"] := rfl
  rw [hprepared, hagain]
  refine ⟨rfl, fun h => ?_, rfl, fun h => ?_⟩
  · exact h (amount "6") (by simp) (nextAmount "6") (by simp) (by decide) rfl
  · exact absurd (congrArg List.length h) (by decide)

end StatementTables
