import Mathlib.Data.List.TakeWhile
import StatementTables.Proofs.Table.Grid

/-! # The tables of a grid

A grid is cut at its markers, the rightmost first (`slicesFrom_eq_filterMap`).  Every cut has room
between its marker and its end, ends within the grid and has no other marker inside (`Cut.Fits`,
`cuts_fit`), so that each slice of a rectangular grid gives a well-formed table
(`slice?_wellFormed`, `segment?_wellFormed`) and no index is out of range (`Grid.InRange`). -/

namespace StatementTables

/-! ### Well-formed tables -/

/-- A value that a table may hold: nothing, a finite number, or a text that says something. -/
def CellValue.Proper : CellValue → Prop
  | .number x => x.isFinite = true
  | .text s => Text.isBlank s = false ∧ Text.trim s ∉ missingTexts
  | .null => True

theorem Text.trim_of_isBlank {s : String} (h : Text.isBlank s = true) : Text.trim s = "" := by
  have hstart : Text.trimStart s.toList = [] :=
    List.dropWhile_eq_nil_iff.mpr (List.all_eq_true.mp h)
  unfold Text.trim Text.trimChars
  rw [hstart]
  rfl

theorem CellValue.output_proper (value : CellValue) : value.output.Proper := by
  unfold output
  split
  · trivial
  · rename_i hpresent
    cases value with
    | null => trivial
    | number x => simpa [isMissing, Proper] using hpresent
    | text s =>
        rw [isMissing, Bool.or_eq_true, not_or] at hpresent
        refine ⟨?_, by simpa using hpresent.2⟩
        rw [← Bool.not_eq_true]
        intro hblank
        rw [Text.trim_of_isBlank hblank] at hpresent
        exact hpresent.1 rfl

/-- What is promised of every table of a report. -/
structure Table.WellFormed (rules : Rules) (t : Table) : Prop where
  columns : t.columns ≠ []
  rows : t.rows ≠ []
  width : ∀ row ∈ t.rows, row.values.length = t.columns.length
  filled : ∀ row ∈ t.rows, ∃ value ∈ row.values, value ≠ .null
  proper : ∀ row ∈ t.rows, ∀ value ∈ row.values, value.Proper
  levels : ∀ a ∈ t.columns, ∀ b ∈ t.columns, a.toLevels.length = b.toLevels.length
  undescribed : ∀ label ∈ t.columns, ∀ level ∈ label.toLevels, rules.isDescription level = false

namespace Grid

/-! ### Markers and cuts -/

theorem mem_columnsWith {isKind : String → Bool} {labels : List ColumnLabel} {i : Nat} :
    i ∈ columnsWith isKind labels ↔
      ∃ label, labels[i]? = some label ∧ label.toLevels.any isKind = true := by
  unfold columnsWith
  rw [List.mem_map]
  constructor
  · rintro ⟨⟨label, _⟩, hlabel, rfl⟩
    obtain ⟨hmem, hkind⟩ := List.mem_filter.mp hlabel
    exact ⟨label, List.mem_zipIdx_iff_getElem?.mp hmem, hkind⟩
  · rintro ⟨label, hlabel, hkind⟩
    exact ⟨(label, i), List.mem_filter.mpr ⟨List.mem_zipIdx_iff_getElem?.mpr hlabel, hkind⟩, rfl⟩

/-- The elements that are left once those with a label of a kind are dropped. -/
theorem keepColumns_columnsWith {α : Type} (isKind : String → Bool) (label : α → ColumnLabel)
    (xs : List α) :
    keepColumns (columnsWith isKind (xs.map label)) xs =
      xs.filter fun x => !(label x).toLevels.any isKind := by
  have hkind : ∀ x ∈ xs.zipIdx, (!(columnsWith isKind (xs.map label)).contains x.2) =
      ((fun x => !(label x).toLevels.any isKind) ∘ Prod.fst) x := by
    intro ⟨x, i⟩ hx
    have hlabel : (xs.map label)[i]? = some (label x) := by
      rw [List.getElem?_map, List.mem_zipIdx_iff_getElem?.mp hx, Option.map_some]
    rw [Function.comp_apply, Bool.not_inj_iff, Bool.eq_iff_iff, List.contains_iff_mem,
      mem_columnsWith, hlabel]
    simp
  unfold keepColumns
  rw [List.filter_congr hkind, ← List.filter_map, List.zipIdx_map_fst]

theorem pairwise_zipIdx {α : Type} (xs : List α) : xs.zipIdx.Pairwise fun a b => a.2 < b.2 := by
  rw [← List.pairwise_map (f := Prod.snd), List.zipIdx_map_snd]
  exact List.pairwise_lt_range'

theorem pairwise_columnsWith (isKind : String → Bool) (labels : List ColumnLabel) :
    (columnsWith isKind labels).Pairwise (· < ·) :=
  List.pairwise_map.mpr ((pairwise_zipIdx labels).filter _)

/-- The part of a grid that makes a table: from a marker to the column `stop`. -/
structure Cut where
  marker : Nat
  stop : Nat

/-- The cuts at markers given from the right. -/
def cutsFrom (stop : Nat) : List Nat → List Cut
  | [] => []
  | marker :: rest => ⟨marker, stop⟩ :: cutsFrom marker rest

/-- The cuts of a grid, from the right. -/
def cuts (rules : Rules) (g : Grid) : List Cut :=
  cutsFrom g.width (markers rules g.labels).reverse

theorem slicesFrom_eq_filterMap (g : Grid) (stop : Nat) (descending : List Nat) :
    g.slicesFrom stop descending =
      (cutsFrom stop descending).filterMap fun cut => g.slice? cut.marker cut.stop := by
  induction descending generalizing stop with
  | nil => rfl
  | cons marker rest ih =>
      rw [slicesFrom, cutsFrom, ih]
      rw [List.filterMap_cons]
      cases g.slice? marker stop with
      | none => rfl
      | some t => rfl

/-- A cut with room for columns, of which none is a marker. -/
structure Cut.Fits (width : Nat) (markers : List Nat) (cut : Cut) : Prop where
  room : cut.marker < cut.stop
  inside : cut.stop ≤ width
  unmarked : ∀ m ∈ markers, m ≤ cut.marker ∨ cut.stop ≤ m

theorem cutsFrom_fit {stop : Nat} {descending : List Nat} (hlt : ∀ m ∈ descending, m < stop)
    (h : descending.Pairwise fun a b => b < a) :
    ∀ cut ∈ cutsFrom stop descending, cut.Fits stop descending := by
  induction descending generalizing stop with
  | nil => exact nofun
  | cons marker rest ih =>
      obtain ⟨hbelow, hrest⟩ := List.pairwise_cons.mp h
      have hmarker : marker < stop := hlt marker List.mem_cons_self
      intro cut hcut
      rcases List.mem_cons.mp hcut with rfl | hcut
      · refine ⟨hmarker, Nat.le_refl _, fun m hm => .inl ?_⟩
        rcases List.mem_cons.mp hm with rfl | hm
        · exact Nat.le_refl _
        · exact Nat.le_of_lt (hbelow m hm)
      · obtain ⟨hroom, hinside, hunmarked⟩ := ih hbelow hrest cut hcut
        refine ⟨hroom, Nat.le_trans hinside (Nat.le_of_lt hmarker), fun m hm => ?_⟩
        rcases List.mem_cons.mp hm with rfl | hm
        · exact .inr hinside
        · exact hunmarked m hm

/-- Every cut of a grid fits. -/
theorem cuts_fit (rules : Rules) (g : Grid) :
    ∀ cut ∈ cuts rules g, cut.Fits g.width (markers rules g.labels) := by
  intro cut hcut
  have hfits : cut.Fits g.width (markers rules g.labels).reverse := by
    refine cutsFrom_fit (fun m hm => ?_) ?_ cut hcut
    · obtain ⟨label, hlabel, -⟩ := mem_columnsWith.mp (List.mem_reverse.mp hm)
      exact (List.getElem?_eq_some_iff.mp hlabel).1
    · exact List.pairwise_reverse.mpr (pairwise_columnsWith _ _)
  exact ⟨hfits.room, hfits.inside, fun m hm => hfits.unmarked m (List.mem_reverse.mpr hm)⟩

/-! ### Slices -/

theorem length_between {α : Type} {low high : Nat} {xs : List α} (h : high ≤ xs.length) :
    (between low high xs).length = high - (low + 1) := by
  unfold between
  rw [List.length_drop, List.length_take, Nat.min_eq_left h]

theorem mem_between {α : Type} {low high : Nat} {xs : List α} {x : α}
    (h : x ∈ between low high xs) : ∃ i, low < i ∧ i < high ∧ xs[i]? = some x := by
  obtain ⟨i, hi⟩ := List.mem_iff_getElem?.mp h
  unfold between at hi
  rw [List.getElem?_drop, List.getElem?_take] at hi
  split at hi
  · exact ⟨low + 1 + i, by omega, by omega, hi⟩
  · cases hi

/-- The row of a slice has the values strictly between marker and end, one of which is there. -/
theorem sliceRow?_eq_some {marker stop : Nat} {row : List CellValue} {r : TableRow}
    (h : sliceRow? marker stop row = some r) :
    r.values = (between marker stop row).map CellValue.output ∧
      ∃ value ∈ r.values, value ≠ .null := by
  simp only [sliceRow?] at h
  split at h
  · cases h
  · rename_i hpresent
    cases h
    refine ⟨rfl, ?_⟩
    rw [List.all_eq_true, Classical.not_forall] at hpresent
    obtain ⟨value, hvalue⟩ := hpresent
    rw [Classical.not_imp, CellValue.isNull_iff] at hvalue
    exact ⟨value, hvalue⟩

theorem slice?_eq_some {g : Grid} {marker stop : Nat} {t : Table}
    (h : g.slice? marker stop = some t) :
    t.columns = between marker stop g.labels ∧ t.rows ≠ [] ∧
      ∀ r ∈ t.rows, ∃ row ∈ g.rows, sliceRow? marker stop row = some r := by
  simp only [slice?] at h
  split at h
  · cases h
  · rename_i hrows
    cases h
    refine ⟨rfl, fun hnil => hrows ?_, fun r hr => List.mem_filterMap.mp hr⟩
    exact List.isEmpty_iff.mpr hnil

section slice
variable {rules : Rules} {g : Grid}

theorem label_mem_of_slice? {marker stop : Nat} {t : Table} (h : g.slice? marker stop = some t)
    {label : ColumnLabel} (hlabel : label ∈ t.columns) : label ∈ g.labels := by
  rw [(slice?_eq_some h).1] at hlabel
  obtain ⟨i, -, -, hi⟩ := mem_between hlabel
  exact List.mem_of_getElem? hi

/-- The tables of a grid are slices of it. -/
theorem exists_cut_of_segment? {tables : List Table} (h : g.segment? rules = .ok tables)
    {t : Table} (ht : t ∈ tables) :
    ∃ cut ∈ cuts rules g, g.slice? cut.marker cut.stop = some t := by
  simp only [segment?] at h
  split at h
  · cases h
  · cases h
    rw [slicesFrom_eq_filterMap] at ht
    exact List.mem_filterMap.mp ht

theorem label_mem_of_segment? {tables : List Table} (h : g.segment? rules = .ok tables)
    {t : Table} (ht : t ∈ tables) {label : ColumnLabel} (hlabel : label ∈ t.columns) :
    label ∈ g.labels := by
  obtain ⟨cut, -, hslice⟩ := exists_cut_of_segment? h ht
  exact label_mem_of_slice? hslice hlabel

/-- No label inside a cut names rows. -/
theorem Cut.Fits.undescribed {cut : Cut} (h : cut.Fits g.width (markers rules g.labels))
    {label : ColumnLabel} (hlabel : label ∈ between cut.marker cut.stop g.labels) :
    ∀ level ∈ label.toLevels, rules.isDescription level = false := by
  obtain ⟨i, hlow, hhigh, hi⟩ := mem_between hlabel
  intro level hlevel
  rw [← Bool.not_eq_true]
  intro hdescription
  have hmarker : i ∈ markers rules g.labels :=
    mem_columnsWith.mpr ⟨label, hi, List.any_eq_true.mpr ⟨level, hlevel, hdescription⟩⟩
  rcases h.unmarked i hmarker with hle | hle <;> omega

theorem slice?_wellFormed (hg : g.Rectangular) {cut : Cut}
    (h : cut.Fits g.width (markers rules g.labels)) {t : Table}
    (ht : g.slice? cut.marker cut.stop = some t) : t.WellFormed rules := by
  obtain ⟨hcolumns, hrows, hslices⟩ := slice?_eq_some ht
  have hwidth : ∀ r ∈ t.rows, r.values.length = t.columns.length := by
    intro r hr
    obtain ⟨row, hrow, hslice⟩ := hslices r hr
    have hstop : cut.stop ≤ row.length := (hg.rows row hrow).symm ▸ h.inside
    rw [(sliceRow?_eq_some hslice).1, List.length_map, length_between hstop, hcolumns,
      length_between h.inside]
  have hfilled : ∀ r ∈ t.rows, ∃ value ∈ r.values, value ≠ .null := by
    intro r hr
    obtain ⟨row, -, hslice⟩ := hslices r hr
    exact (sliceRow?_eq_some hslice).2
  have hlabel : ∀ label ∈ t.columns, label ∈ g.labels := fun _ => label_mem_of_slice? ht
  refine ⟨fun hnil => ?_, hrows, hwidth, hfilled, fun r hr value hvalue => ?_,
    fun a ha b hb => hg.levels a (hlabel a ha) b (hlabel b hb), fun label hmem => ?_⟩
  · -- a row is as wide as the columns and has a value
    obtain ⟨r, hr⟩ := List.exists_mem_of_ne_nil _ hrows
    obtain ⟨value, hvalue, -⟩ := hfilled r hr
    have hlength := hwidth r hr
    rw [hnil, List.length_nil, List.length_eq_zero_iff] at hlength
    rw [hlength] at hvalue
    cases hvalue
  · obtain ⟨row, -, hslice⟩ := hslices r hr
    rw [(sliceRow?_eq_some hslice).1] at hvalue
    obtain ⟨source, -, rfl⟩ := List.mem_map.mp hvalue
    exact source.output_proper
  · rw [hcolumns] at hmem
    exact h.undescribed hmem

/-- The tables of a rectangular grid are well formed. -/
theorem segment?_wellFormed (hg : g.Rectangular) {tables : List Table}
    (h : g.segment? rules = .ok tables) : ∀ t ∈ tables, t.WellFormed rules := by
  intro t ht
  obtain ⟨cut, hcut, hslice⟩ := exists_cut_of_segment? h ht
  exact slice?_wellFormed hg (cuts_fit rules g cut hcut) hslice

end slice

/-! ### Indices -/

/-- The tables of a grid are its slices at the cuts, and every index that these use is within the
labels and within each row. -/
structure InRange (rules : Rules) (g : Grid) : Prop where
  slices : ∀ tables, g.segment? rules = .ok tables →
    tables = (cuts rules g).filterMap fun cut => g.slice? cut.marker cut.stop
  labels : ∀ cut ∈ cuts rules g, cut.marker + 1 ≤ cut.stop ∧ cut.stop ≤ g.labels.length
  rows : ∀ cut ∈ cuts rules g, ∀ row ∈ g.rows, cut.marker < row.length ∧ cut.stop ≤ row.length

theorem Rectangular.inRange {g : Grid} (h : g.Rectangular) (rules : Rules) :
    InRange rules g where
  slices := by
    intro tables htables
    simp only [segment?] at htables
    split at htables
    · cases htables
    · cases htables
      exact slicesFrom_eq_filterMap g _ _
  labels := fun cut hcut =>
    have hfits := cuts_fit rules g cut hcut
    ⟨hfits.room, hfits.inside⟩
  rows := fun cut hcut row hrow => by
    have hfits := cuts_fit rules g cut hcut
    rw [h.rows row hrow]
    exact ⟨Nat.lt_of_lt_of_le hfits.room hfits.inside, hfits.inside⟩

end Grid

end StatementTables
