import StatementTables.Proofs.Report.Pages

/-! # The secondary export

The sections of a secondary export are taken one after the other.  What a section adds to a report
without its title is a matter of the section alone (`Section.Adds`), and it adds nothing to a report
that has the title.  So the secondary export leaves the sheets of the pages as they are and only
puts new titles behind them, and a section without a sheet is as good as absent but for its count
(`secondary_fills_gaps`). -/

namespace StatementTables

/-! ### What a section adds -/

namespace Section

/-- The title of a section calls for tables. -/
structure IsTabular (rules : Rules) (s : Section) : Prop where
  board : rules.isBoardReport s.title = false
  narrative : rules.isNarrativeTitle s.title = false

/-- What a section adds to a report that has no sheet with its title: a sheet, perhaps, and
counts. -/
inductive Adds (rules : Rules) (s : Section) : Option Sheet → ReportStats → Prop where
  | board (board : rules.isBoardReport s.title = true) : Adds rules s none 0
  | narrative (board : rules.isBoardReport s.title = false)
      (narrative : rules.isNarrativeTitle s.title = true) :
      Adds rules s (some ⟨none, some s.title, none, [], true⟩) 0
  | outside (fault : SourceFault) (tabular : s.IsTabular rules)
      (content : s.content = .error fault) : Adds rules s none .skipped
  | empty (tabular : s.IsTabular rules) (content : s.content = .ok .empty) : Adds rules s none 0
  | headless (reason : SkipReason) (tabular : s.IsTabular rules)
      (content : s.content = .ok (.skipped reason)) : Adds rules s none .skipped
  | broken (table : RenderedTable) (fault : SourceFault) (tabular : s.IsTabular rules)
      (content : s.content = .ok (.table table)) (segment : table.segment? rules = .error fault) :
      Adds rules s none .failed
  | unmarked (table : RenderedTable) (reason : SkipReason) (tabular : s.IsTabular rules)
      (content : s.content = .ok (.table table))
      (segment : table.segment? rules = .ok (.error reason)) : Adds rules s none .skipped
  | rowless (table : RenderedTable) (tabular : s.IsTabular rules)
      (content : s.content = .ok (.table table)) (segment : table.segment? rules = .ok (.ok [])) :
      Adds rules s none 0
  | tables (table : RenderedTable) (tables : List Table) (tabular : s.IsTabular rules)
      (content : s.content = .ok (.table table))
      (segment : table.segment? rules = .ok (.ok tables)) (nonempty : tables ≠ []) :
      Adds rules s (some ⟨none, some s.title, none, tables, false⟩)
        { ReportStats.zero with secondarySheets := 1, tables := tables.length }

variable {rules : Rules} {s : Section} {sheet : Sheet} {stats : ReportStats}

/-- Every section adds something or nothing. -/
theorem exists_adds (rules : Rules) (s : Section) : ∃ sheet stats, s.Adds rules sheet stats := by
  cases hboard : rules.isBoardReport s.title with
  | true => exact ⟨_, _, .board hboard⟩
  | false =>
      cases hnarrative : rules.isNarrativeTitle s.title with
      | true => exact ⟨_, _, .narrative hboard hnarrative⟩
      | false =>
          have htabular : s.IsTabular rules := ⟨hboard, hnarrative⟩
          cases hcontent : s.content with
          | error fault => exact ⟨_, _, .outside fault htabular hcontent⟩
          | ok content =>
              cases content with
              | empty => exact ⟨_, _, .empty htabular hcontent⟩
              | skipped reason => exact ⟨_, _, .headless reason htabular hcontent⟩
              | table table =>
                  cases hsegment : table.segment? rules with
                  | error fault => exact ⟨_, _, .broken table fault htabular hcontent hsegment⟩
                  | ok segmented =>
                      rcases segmented with reason | (_ | ⟨first, rest⟩)
                      · exact ⟨_, _, .unmarked table reason htabular hcontent hsegment⟩
                      · exact ⟨_, _, .rowless table htabular hcontent hsegment⟩
                      · exact ⟨_, _, .tables table _ htabular hcontent hsegment (by simp)⟩

/-- A section without a sheet adds at most one to the skipped or to the failed units. -/
theorem Adds.counts (h : s.Adds rules none stats) :
    stats = 0 ∨ stats = .skipped ∨ stats = .failed := by
  cases h <;> simp

theorem Adds.titleFa (h : s.Adds rules (some sheet) stats) : sheet.titleFa = some s.title := by
  cases h <;> rfl

theorem Adds.not_board (h : s.Adds rules (some sheet) stats) :
    rules.isBoardReport s.title = false := by
  cases h with
  | narrative board => exact board
  | tables _ _ tabular => exact tabular.board

theorem Adds.of_narrative (h : s.Adds rules (some sheet) stats)
    (hnarrative : rules.isNarrativeTitle s.title = true) :
    sheet.insertOnly = true ∧ sheet.tables = [] := by
  cases h with
  | narrative => exact ⟨rfl, rfl⟩
  | tables _ _ tabular =>
      rw [tabular.narrative] at hnarrative
      cases hnarrative

theorem Adds.of_not_narrative (h : s.Adds rules (some sheet) stats)
    (hnarrative : rules.isNarrativeTitle s.title = false) :
    sheet.insertOnly = false ∧ sheet.tables ≠ [] := by
  cases h with
  | narrative _ narrative =>
      rw [narrative] at hnarrative
      cases hnarrative
  | tables _ _ _ _ _ nonempty => exact ⟨rfl, nonempty⟩

end Section

namespace Extraction

variable {rules : Rules} {e : Extraction} {s : Section}

/-- The extraction with a sheet, perhaps, and counts added. -/
def adding (e : Extraction) (sheet : Option Sheet) (stats : ReportStats) : Extraction :=
  ⟨{ e.document with sheets := e.document.sheets ++ sheet.toList }, e.stats + stats⟩

theorem adding_zero (e : Extraction) : e.adding none 0 = e := by
  simp [adding]

theorem adding_none (e : Extraction) (stats : ReportStats) :
    e.adding none stats = e.count stats := by
  simp [adding, count]

theorem adding_some (e : Extraction) (sheet : Sheet) (stats : ReportStats) :
    e.adding (some sheet) stats = e.addSheet sheet stats :=
  rfl

theorem addMissing_eq {sheet : Option Sheet} {stats : ReportStats} (h : s.Adds rules sheet stats) :
    addMissing rules e s = e.adding sheet stats := by
  cases h with
  | board board => simp [addMissing, board, adding_zero]
  | narrative board narrative =>
      simp [addMissing, board, narrative, adding_some, Sheet.withoutTables, ReportStats.zero_eq]
  | outside fault tabular content =>
      simp [addMissing, tabular.board, tabular.narrative, content, adding_none]
  | empty tabular content =>
      simp [addMissing, tabular.board, tabular.narrative, content, adding_zero]
  | headless reason tabular content =>
      simp [addMissing, tabular.board, tabular.narrative, content, adding_none]
  | broken table fault tabular content segment =>
      simp [addMissing, tabular.board, tabular.narrative, content, segment, adding_none]
  | unmarked table reason tabular content segment =>
      simp [addMissing, tabular.board, tabular.narrative, content, segment, adding_none]
  | rowless table tabular content segment =>
      simp [addMissing, tabular.board, tabular.narrative, content, segment, adding_zero]
  | tables table tables tabular content segment nonempty =>
      simp [addMissing, tabular.board, tabular.narrative, content, segment, nonempty, adding_some]

/-! ### Sections in turn -/

/-- The extraction with what sections add to it. -/
def withSections (rules : Rules) (e : Extraction) (sections : List Section) : Extraction :=
  sections.foldl (addSection rules) e

theorem addSection_of_known (h : e.document.hasTitle s.title = true) : addSection rules e s = e :=
  if_pos h

theorem addSection_of_adds (h : e.document.hasTitle s.title = false) {sheet : Option Sheet}
    {stats : ReportStats} (hs : s.Adds rules sheet stats) :
    addSection rules e s = e.adding sheet stats := by
  rw [addSection, if_neg (by simp [h]), addMissing_eq hs]

/-- A change that sections do not see can be made before or after them. -/
theorem withSections_comm {f : Extraction → Extraction}
    (htitles : ∀ e title, (f e).document.hasTitle title = e.document.hasTitle title)
    (hadding : ∀ e sheet stats, (f e).adding sheet stats = f (e.adding sheet stats))
    (e : Extraction) (sections : List Section) :
    (f e).withSections rules sections = f (e.withSections rules sections) := by
  refine List.foldl_hom f fun e s => ?_
  cases hknown : e.document.hasTitle s.title with
  | true => rw [addSection_of_known hknown, addSection_of_known ((htitles e _).trans hknown)]
  | false =>
      obtain ⟨sheet, stats, hs⟩ := s.exists_adds rules
      rw [addSection_of_adds hknown hs, addSection_of_adds ((htitles e _).trans hknown) hs, hadding]

theorem withSections_count (e : Extraction) (stats : ReportStats) (sections : List Section) :
    (e.count stats).withSections rules sections = (e.withSections rules sections).count stats := by
  refine withSections_comm (f := fun e => e.count stats) (fun _ _ => rfl) ?_ e sections
  intro e sheet more
  simp [adding, count, add_right_comm]

theorem withSections_foundIn (e : Extraction) (count : Nat) (sections : List Section) :
    (e.foundIn count).withSections rules sections =
      (e.withSections rules sections).foundIn count := by
  refine withSections_comm (f := fun e => e.foundIn count) ?_ ?_ e sections
  · intro e title
    simp [ReportDocument.hasTitle]
  · intro e sheet stats
    unfold foundIn adding
    split <;> rfl

/-- The secondary export of a report that no page ends. -/
theorem ofReport_secondary {identity : ReportIdentity} {pages : List String}
    (h : ∀ page ∈ pages, ¬ PageResult.IsChild rules page) (html : String) (count : Nat) :
    ofReport rules identity pages (some html) count =
      (ofReport rules identity pages none count).withSections rules
        (Section.ofHtml rules html) := by
  rw [ofReport_pages h, withSections_foundIn]
  rw [ofReport_eq, addPages_of_goesOn h]
  rfl

theorem withSections_append (e : Extraction) (front back : List Section) :
    e.withSections rules (front ++ back) = (e.withSections rules front).withSections rules back :=
  List.foldl_append

theorem withSections_cons (e : Extraction) (s : Section) (sections : List Section) :
    e.withSections rules (s :: sections) = (addSection rules e s).withSections rules sections :=
  rfl

/-! ### Reports from their parts -/

section parts
variable {P : List Sheet → ReportStats → Prop}
  (append : ∀ {sheets more : List Sheet} {stats counts : ReportStats},
    P sheets stats → P more counts → P (sheets ++ more) (stats + counts))
include append

theorem addPages_of_parts
    (page : ∀ html, P (PageResult.ofHtml rules html).sheets (PageResult.ofHtml rules html).stats)
    (pages : List String) (h : P e.document.sheets e.stats) :
    (addPages rules e pages).elim (fun e => P e.document.sheets e.stats)
      fun e => P e.document.sheets e.stats := by
  induction pages generalizing e with
  | nil => exact h
  | cons html pages ih =>
      have hpage : P (e.addPage (.ofHtml rules html)).document.sheets
          (e.addPage (.ofHtml rules html)).stats := append h (page html)
      simp only [addPages]
      split
      · exact hpage
      · exact ih hpage

theorem addSection_of_parts
    (adds : ∀ {s : Section} {sheet stats}, s.Adds rules sheet stats → P sheet.toList stats)
    (s : Section) (h : P e.document.sheets e.stats) :
    P (addSection rules e s).document.sheets (addSection rules e s).stats := by
  cases hknown : e.document.hasTitle s.title with
  | true => rwa [addSection_of_known hknown]
  | false =>
      obtain ⟨sheet, stats, hs⟩ := s.exists_adds rules
      rw [addSection_of_adds hknown hs]
      exact append h (adds hs)

/-- What holds of no sheets, of what any page and any section adds, and of parts put together, holds
of every report, one that ends early included. -/
theorem ofReport_of_parts (start : P [] 0)
    (page : ∀ html, P (PageResult.ofHtml rules html).sheets (PageResult.ofHtml rules html).stats)
    (adds : ∀ {s : Section} {sheet stats}, s.Adds rules sheet stats → P sheet.toList stats)
    (identity : ReportIdentity) (pages : List String) (secondary : Option String) (count : Nat) :
    P (ofReport rules identity pages secondary count).document.sheets
      (ofReport rules identity pages secondary count).stats := by
  have hpages : (addPages rules (ofIdentity identity) pages).elim
      (fun e => P e.document.sheets e.stats) fun e => P e.document.sheets e.stats :=
    addPages_of_parts append page pages start
  rw [ofReport_eq]
  cases hadded : addPages rules (ofIdentity identity) pages with
  | inl ended =>
      rw [hadded] at hpages
      exact hpages
  | inr e =>
      rw [hadded] at hpages
      have he : P e.document.sheets e.stats := hpages
      dsimp only
      cases secondary with
      | none => split <;> exact he
      | some html =>
          have hall : P (e.addSecondary rules html).document.sheets
              (e.addSecondary rules html).stats :=
            List.foldlRecOn (motive := fun e : Extraction => P e.document.sheets e.stats) _ _ he
              fun _ hsofar s _ => addSection_of_parts append adds s hsofar
          split <;> exact hall

end parts

/-! ### Filling gaps -/

/-- Sheets with the sections that they come from: the sheets that sections add to those there are
before. -/
structure FillsGaps (rules : Rules) (before : List Sheet) (sections : List Section)
    (added : List (Section × Sheet)) : Prop where
  /-- They come in the order of the sections. -/
  order : (added.map Prod.fst).Sublist sections
  titled : ∀ a ∈ added, a.2.titleFa = some a.1.title
  new : ∀ a ∈ added, ∀ sheet ∈ before, sheet.titleFa ≠ a.2.titleFa
  distinct : (added.map fun a => a.2.titleFa).Nodup
  noBoard : ∀ a ∈ added, rules.isBoardReport a.1.title = false
  narrative : ∀ a ∈ added, rules.isNarrativeTitle a.1.title = true →
    a.2.insertOnly = true ∧ a.2.tables = []
  tabular : ∀ a ∈ added, rules.isNarrativeTitle a.1.title = false →
    a.2.insertOnly = false ∧ a.2.tables ≠ []

theorem hasTitle_eq_false_iff {document : ReportDocument} {title : String} :
    document.hasTitle title = false ↔ ∀ sheet ∈ document.sheets, sheet.titleFa ≠ some title := by
  simp [ReportDocument.hasTitle]

theorem fillsGaps_nil (before : List Sheet) : FillsGaps rules before [] [] where
  order := .slnil
  titled := List.forall_mem_nil _
  new := List.forall_mem_nil _
  distinct := .nil
  noBoard := List.forall_mem_nil _
  narrative := List.forall_mem_nil _
  tabular := List.forall_mem_nil _

/-- The sheets with one more in front, from a section before the others. -/
theorem FillsGaps.cons {before : List Sheet} {sections : List Section}
    {added : List (Section × Sheet)} {sheet : Sheet} {stats : ReportStats}
    (h : FillsGaps rules (before ++ [sheet]) sections added) (hs : s.Adds rules (some sheet) stats)
    (hnew : ∀ old ∈ before, old.titleFa ≠ some s.title) :
    FillsGaps rules before (s :: sections) ((s, sheet) :: added) where
  order := h.order.cons_cons s
  titled := List.forall_mem_cons.mpr ⟨hs.titleFa, h.titled⟩
  new := List.forall_mem_cons.mpr
    ⟨fun old hold => hs.titleFa ▸ hnew old hold,
      fun a ha old hold => h.new a ha old (List.mem_append_left _ hold)⟩
  distinct := by
    rw [List.map_cons, List.nodup_cons, List.mem_map]
    refine ⟨?_, h.distinct⟩
    rintro ⟨a, ha, heq⟩
    exact h.new a ha sheet (by simp) heq.symm
  noBoard := List.forall_mem_cons.mpr ⟨hs.not_board, h.noBoard⟩
  narrative := List.forall_mem_cons.mpr ⟨hs.of_narrative, h.narrative⟩
  tabular := List.forall_mem_cons.mpr ⟨hs.of_not_narrative, h.tabular⟩

/-- The sections leave the sheets that there are and fill gaps behind them. -/
theorem exists_fillsGaps (e : Extraction) (sections : List Section) :
    ∃ added, FillsGaps rules e.document.sheets sections added ∧
      (e.withSections rules sections).document =
        { e.document with sheets := e.document.sheets ++ added.map Prod.snd } := by
  induction sections generalizing e with
  | nil =>
      exact ⟨[], fillsGaps_nil _, by simp [withSections]⟩
  | cons s sections ih =>
      rw [withSections_cons]
      have hpass : ∀ stats, addSection rules e s = e.count stats →
          ∃ added, FillsGaps rules e.document.sheets (s :: sections) added ∧
            ((addSection rules e s).withSections rules sections).document =
              { e.document with sheets := e.document.sheets ++ added.map Prod.snd } := by
        intro stats hcount
        obtain ⟨added, hadded, hdocument⟩ := ih (e.count stats)
        exact ⟨added, { hadded with order := hadded.order.cons s }, hcount ▸ hdocument⟩
      cases hknown : e.document.hasTitle s.title with
      | true => exact hpass 0 (by simp [addSection_of_known hknown, count])
      | false =>
          obtain ⟨sheet, stats, hs⟩ := s.exists_adds rules
          rw [addSection_of_adds hknown hs] at hpass ⊢
          cases sheet with
          | none => exact hpass stats (adding_none e stats)
          | some sheet =>
              obtain ⟨added, hadded, hdocument⟩ := ih (e.adding (some sheet) stats)
              exact ⟨(s, sheet) :: added, hadded.cons hs (hasTitle_eq_false_iff.mp hknown),
                hdocument.trans (by simp [adding])⟩

/-- What becomes of a section that stands between others. -/
structure InTurn (rules : Rules) (e : Extraction) (front : List Section) (s : Section)
    (back : List Section) : Prop where
  /-- A section whose title is there already is as good as absent. -/
  known : (e.withSections rules front).document.hasTitle s.title = true →
    e.withSections rules (front ++ s :: back) = e.withSections rules (front ++ back)
  /-- So is a section without a sheet, but for its count. -/
  passed : (e.withSections rules front).document.hasTitle s.title = false →
    ∀ stats, s.Adds rules none stats →
      e.withSections rules (front ++ s :: back) = (e.withSections rules (front ++ back)).count stats
  /-- The sheet of another section is added next. -/
  added : (e.withSections rules front).document.hasTitle s.title = false →
    ∀ sheet stats, s.Adds rules (some sheet) stats →
      e.withSections rules (front ++ s :: back) =
        ((e.withSections rules front).adding (some sheet) stats).withSections rules back

theorem inTurn (e : Extraction) (front : List Section) (s : Section) (back : List Section) :
    InTurn rules e front s back where
  known h := by
    rw [withSections_append, withSections_cons, addSection_of_known h, withSections_append]
  passed h stats hs := by
    rw [withSections_append, withSections_cons, addSection_of_adds h hs, adding_none,
      withSections_count, withSections_append]
  added h sheet stats hs := by
    rw [withSections_append, withSections_cons, addSection_of_adds h hs]

/-- **The secondary export only fills gaps.**  To a report that no page ends it adds the sheets of
its sections in their order, behind the sheets of the pages and under titles that are new: no title
of a board report, the sheets of narratives without tables, all others with some.  A section that
adds no sheet, because its title is known or for want of a table, changes at most one count, and
that by one; the sections after it are treated as if it were absent. -/
theorem secondary_fills_gaps (rules : Rules) (identity : ReportIdentity) (pages : List String)
    (h : ∀ page ∈ pages, ¬ PageResult.IsChild rules page) (count : Nat) :
    let primary := ofReport rules identity pages none count
    (∀ html, ofReport rules identity pages (some html) count =
      primary.withSections rules (Section.ofHtml rules html)) ∧
    (∀ sections, ∃ added, FillsGaps rules primary.document.sheets sections added ∧
      (primary.withSections rules sections).document =
        { primary.document with sheets := primary.document.sheets ++ added.map Prod.snd }) ∧
    (∀ front s back, InTurn rules primary front s back) ∧
    ∀ s : Section, ∃ sheet stats, s.Adds rules sheet stats ∧
      (sheet = none → stats = 0 ∨ stats = .skipped ∨ stats = .failed) := by
  intro primary
  refine ⟨fun html => ofReport_secondary h html count, exists_fillsGaps primary, inTurn primary,
    fun s => ?_⟩
  obtain ⟨sheet, stats, hs⟩ := s.exists_adds rules
  refine ⟨sheet, stats, hs, ?_⟩
  rintro rfl
  exact hs.counts

/-- A table of costs, or one with a row that is too long. -/
def costs (row : List String) : RenderedTable := ⟨[[some "شرح", some "Amount"]], [row]⟩

/-- Sections under a known title, a title that fails at first and comes three times, a narrative, a
board report and one without a container. -/
def costSections : List Section :=
  [⟨"Notes", .ok (.table (costs ["Rent", "x"]))⟩,
    ⟨"Costs", .ok (.table (costs ["Rent", "x", "y"]))⟩,
    ⟨"Costs", .ok (.table (costs ["Rent", "x"]))⟩, ⟨"Costs", .ok (.table (costs ["Rent", "z"]))⟩,
    ⟨"تفسیری", .ok .empty⟩, ⟨"مدیره", .ok .empty⟩, ⟨"Risks", .error .headingOutside⟩]

/-- Of the sections the third and the narrative fill gaps; the others add two counts at most. -/
theorem secondary_fills_gaps_costs :
    let primary := ofReport defaultRules [] [notesPage] none 1
    let full := primary.withSections defaultRules costSections
    (∀ page ∈ [notesPage], ¬ PageResult.IsChild defaultRules page) ∧
    (∃ added, FillsGaps defaultRules primary.document.sheets costSections added ∧
      full.document.sheets = primary.document.sheets ++ added.map Prod.snd) ∧
    full.document.sheets.map Sheet.titleFa = [some "Notes", some "Costs", some "تفسیری"] ∧
    full.stats = ⟨0, 0, 1, 1, 1, 1, 0, 0⟩ := by
  intro primary full
  have h : ∀ page ∈ [notesPage], ¬ PageResult.IsChild defaultRules page :=
    List.forall_mem_singleton.mpr notesPage_adds.1
  obtain ⟨-, hadded, -, -⟩ := secondary_fills_gaps defaultRules [] [notesPage] h 1
  obtain ⟨added, hfills, hdocument⟩ := hadded costSections
  have hevaluated : full.document.sheets.map Sheet.titleFa =
      [some "Notes", some "Costs", some "تفسیری"] ∧ full.stats = ⟨0, 0, 1, 1, 1, 1, 0, 0⟩ := by
    decide +kernel
  refine ⟨h, ⟨added, hfills, ?_⟩, hevaluated⟩
  rw [hdocument]

end Extraction

end StatementTables
