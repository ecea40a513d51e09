import Mathlib.Tactic.Abel
import StatementTables.Proofs.Report.Deviations
import StatementTables.Proofs.Report.PageResults

/-! # Pages one by one

What a page adds to a report does not depend on the pages around it (`sheetPage_goesOn`), and a page
that cannot be read leaves nothing behind (`sheetPage_error_unchanged`).  So a report that no page
ends is put together from what its pages come to alone, and a page that cannot be read adds one to
the failed units and nothing else (`pages_isolated`).  A page about another company ends a report:
what follows it, the secondary export included, is not looked at (`child_page_ends`). -/

namespace StatementTables

/-! ### What a page comes to -/

/-- The structured source on a page, if there is one that can be read. -/
def SourceReport.onPage? (html : String) : Option SourceReport :=
  (ofHtml? html).toOption.join

theorem SourceReport.onPage?_eq_some_iff {html : String} {source : SourceReport} :
    onPage? html = some source ↔ ofHtml? html = .ok (some source) := by
  unfold onPage?
  cases ofHtml? html with
  | error e => simp [Except.toOption]
  | ok found => simp [Except.toOption]

namespace PageResult

variable {rules : Rules} {html : String}

/-- A page with a structured source that is about another company. -/
def IsChild (rules : Rules) (html : String) : Prop :=
  ∃ source, SourceReport.onPage? html = some source ∧ rules.isChildReport source.title = true

/-- A page that cannot be read: its data, what it shows in their place, or the table shown. -/
inductive Unreadable (rules : Rules) (html : String) : Prop where
  | data (e : SourceError) (data : SourceReport.ofHtml? html = .error e)
  | page (fault : SourceFault) (data : SourceReport.ofHtml? html = .ok none)
      (page : RenderedPage.ofHtml? html = .error fault)
  | table (shown : RenderedPage) (table : RenderedTable) (fault : SourceFault)
      (data : SourceReport.ofHtml? html = .ok none) (page : RenderedPage.ofHtml? html = .ok shown)
      (code : rules.skipsSheetCode shown.sheetCode = false) (count : shown.tableCount ≠ 0)
      (flat : shown.table = .ok table) (segment : table.segment? rules = .error fault)

theorem ofRendered?_eq_error_iff {page : RenderedPage} {fault : SourceFault} :
    ofRendered? rules page = .error fault ↔
      rules.skipsSheetCode page.sheetCode = false ∧ page.tableCount ≠ 0 ∧
        ∃ table, page.table = .ok table ∧ table.segment? rules = .error fault := by
  unfold ofRendered?
  cases rules.skipsSheetCode page.sheetCode with
  | true => simp
  | false =>
      by_cases hcount : page.tableCount = 0
      · simp [hcount]
      · cases page.table with
        | error reason => simp [hcount]
        | ok table =>
            cases hsegment : table.segment? rules with
            | error e => simp [hcount, hsegment]
            | ok segmented =>
                rcases segmented with reason | (_ | ⟨t, ts⟩) <;> simp [hcount, hsegment]

theorem unreadable_iff_of_shown {shown : RenderedPage}
    (hdata : SourceReport.ofHtml? html = .ok none) (hpage : RenderedPage.ofHtml? html = .ok shown) :
    Unreadable rules html ↔ ∃ fault, ofRendered? rules shown = .error fault := by
  simp only [ofRendered?_eq_error_iff]
  constructor
  · intro h
    cases h with
    | data e h => rw [hdata] at h; cases h
    | page fault _ h => rw [hpage] at h; cases h
    | table shown' table fault _ h code count flat segment =>
        rw [hpage] at h
        cases h
        exact ⟨fault, code, count, table, flat, segment⟩
  · rintro ⟨fault, code, count, table, flat, segment⟩
    exact .table shown table fault hdata hpage code count flat segment

theorem exists_read?_eq_error_iff :
    (∃ e, read? rules html = .error e) ↔ Unreadable rules html := by
  unfold read?
  cases hdata : SourceReport.ofHtml? html with
  | error e => exact ⟨fun _ => .data e hdata, fun _ => ⟨e, rfl⟩⟩
  | ok source =>
      cases source with
      | some source =>
          refine ⟨nofun, fun h => ?_⟩
          cases h <;> simp_all
      | none =>
          cases hpage : RenderedPage.ofHtml? html with
          | error fault => exact ⟨fun _ => .page fault hdata hpage, fun _ => ⟨_, rfl⟩⟩
          | ok shown =>
              rw [unreadable_iff_of_shown hdata hpage]
              cases hread : ofRendered? rules shown <;> simp [hread, Except.mapError]

theorem ofHtml_of_source {source : SourceReport} (h : SourceReport.onPage? html = some source) :
    ofHtml rules html = ofSource rules source := by
  unfold ofHtml read?
  rw [SourceReport.onPage?_eq_some_iff.mp h]
  rfl

theorem ofHtml_of_unreadable (h : Unreadable rules html) : ofHtml rules html = ofStats .failed := by
  obtain ⟨e, he⟩ := exists_read?_eq_error_iff.mpr h
  unfold ofHtml
  rw [he]

/-- What a page adds comes from its structured source, from what it shows, or from neither. -/
theorem ofHtml_cases {P : PageResult → Prop}
    (source : ∀ source, SourceReport.onPage? html = some source → P (ofSource rules source))
    (shown : ∀ page result, SourceReport.onPage? html = none →
      RenderedPage.ofHtml? html = .ok page → ofRendered? rules page = .ok result → P result)
    (failed : P (ofStats .failed)) : P (ofHtml rules html) := by
  cases hsource : SourceReport.onPage? html with
  | some found =>
      rw [ofHtml_of_source hsource]
      exact source found hsource
  | none =>
      unfold ofHtml
      split
      · rename_i result hread
        unfold read? at hread
        obtain ⟨found, hfound, hread⟩ := Except.bind_eq_ok_iff.mp hread
        cases found with
        | some found =>
            rw [SourceReport.onPage?_eq_some_iff.mpr hfound] at hsource
            cases hsource
        | none =>
            obtain ⟨page, hpage, hresult⟩ :=
              Except.bind_eq_ok_iff.mp (Except.mapError_eq_ok_iff.mp hread)
            exact shown page result hsource hpage hresult
      · exact failed

theorem ofHtml_of_noSource (h : SourceReport.onPage? html = none) :
    (ofHtml rules html).metadata = none ∧ (ofHtml rules html).endsReport = false := by
  refine ofHtml_cases (P := fun page => page.metadata = none ∧ page.endsReport = false) ?_ ?_
    ⟨rfl, rfl⟩
  · intro source hsource
    rw [h] at hsource
    cases hsource
  · intro page result _ _ hresult
    exact ofRendered?_plain hresult

theorem ofSource_metadata (source : SourceReport) :
    (ofSource rules source).metadata = some source.metadata := by
  unfold ofSource
  split
  · rfl
  · split <;> rfl

theorem ofSource_endsReport (source : SourceReport) :
    (ofSource rules source).endsReport = rules.isChildReport source.title := by
  unfold ofSource
  split
  · exact Eq.symm ‹_›
  · split <;> simp_all

theorem ofHtml_metadata (html : String) :
    (ofHtml rules html).metadata = (SourceReport.onPage? html).map SourceReport.metadata := by
  cases hsource : SourceReport.onPage? html with
  | some source => rw [ofHtml_of_source hsource, ofSource_metadata, Option.map_some]
  | none => rw [(ofHtml_of_noSource hsource).1, Option.map_none]

theorem ofHtml_endsReport_iff : (ofHtml rules html).endsReport = true ↔ IsChild rules html := by
  unfold IsChild
  cases hsource : SourceReport.onPage? html with
  | some source => simp [ofHtml_of_source hsource, ofSource_endsReport]
  | none => simp [(ofHtml_of_noSource hsource).2]

theorem ofHtml_endsReport_eq_false_iff :
    (ofHtml rules html).endsReport = false ↔ ¬ IsChild rules html := by
  rw [← ofHtml_endsReport_iff, Bool.not_eq_true]

end PageResult

/-! ### Reports without a secondary export -/

namespace Extraction

open PageResult

/-- The extraction with what pages add to it. -/
def withPages (rules : Rules) (e : Extraction) (pages : List String) : Extraction :=
  pages.foldl (fun e html => e.addPage (.ofHtml rules html)) e

/-- The extraction when `count` files of pages were found. -/
def foundIn (e : Extraction) (count : Nat) : Extraction :=
  if count = 0 then ⟨e.document.markNoFile, e.stats⟩ else e

section foundIn
variable (e : Extraction) (count : Nat)

@[simp] theorem foundIn_stats : (e.foundIn count).stats = e.stats := by
  unfold foundIn
  split <;> rfl

@[simp] theorem foundIn_sheets : (e.foundIn count).document.sheets = e.document.sheets := by
  unfold foundIn
  split <;> rfl

@[simp] theorem foundIn_metadata : (e.foundIn count).document.metadata = e.document.metadata := by
  unfold foundIn
  split <;> rfl

theorem foundIn_count (stats : ReportStats) :
    (e.count stats).foundIn count = (e.foundIn count).count stats := by
  unfold foundIn
  split <;> rfl

end foundIn

/-- What the last structured source on some pages says about their report. -/
def metadataOf? (pages : List String) : Option ReportMetadata :=
  (pages.filterMap SourceReport.onPage?).getLast?.map SourceReport.metadata

variable {rules : Rules} {identity : ReportIdentity} {e : Extraction}

theorem metadataOf?_cons (rules : Rules) (page : String) (pages : List String) :
    metadataOf? (page :: pages) = (metadataOf? pages).or (ofHtml rules page).metadata := by
  unfold metadataOf?
  rw [ofHtml_metadata]
  cases hsource : SourceReport.onPage? page with
  | none => rw [List.filterMap_cons_none hsource, Option.map_none, Option.or_none]
  | some source =>
      rw [List.filterMap_cons_some hsource, List.getLast?_cons]
      cases (pages.filterMap SourceReport.onPage?).getLast? <;> rfl

theorem withPages_eq (e : Extraction) (pages : List String) :
    e.withPages rules pages =
      ⟨{ e.document with
          metadata := (metadataOf? pages).or e.document.metadata
          sheets := e.document.sheets ++ pages.flatMap fun page => (ofHtml rules page).sheets },
        e.stats + (pages.map fun page => (ofHtml rules page).stats).sum⟩ := by
  induction pages generalizing e with
  | nil => simp [withPages, metadataOf?]
  | cons page pages ih =>
      have hstep : e.withPages rules (page :: pages) =
          (e.addPage (.ofHtml rules page)).withPages rules pages := rfl
      rw [hstep, ih, metadataOf?_cons rules]
      simp [addPage, add_assoc, Option.or_assoc]

/-- Pages before the one that ends the report are added one after the other. -/
theorem addPages_append (e : Extraction) {front : List String}
    (h : ∀ page ∈ front, ¬ IsChild rules page) (back : List String) :
    addPages rules e (front ++ back) = addPages rules (e.withPages rules front) back := by
  induction front generalizing e with
  | nil => rfl
  | cons page front ih =>
      have hgoesOn : (ofHtml rules page).endsReport = false :=
        ofHtml_endsReport_eq_false_iff.mpr (h page List.mem_cons_self)
      have hrest := ih (e.addPage (ofHtml rules page)) fun p hp =>
        h p (List.mem_cons_of_mem page hp)
      simpa [addPages, hgoesOn, withPages] using hrest

theorem addPages_of_goesOn {pages : List String} (h : ∀ page ∈ pages, ¬ IsChild rules page) :
    addPages rules e pages = .inr (e.withPages rules pages) := by
  have happend := addPages_append e h []
  rwa [List.append_nil] at happend

theorem ofReport_pages {pages : List String} (h : ∀ page ∈ pages, ¬ IsChild rules page)
    (count : Nat) :
    ofReport rules identity pages none count =
      ((ofIdentity identity).withPages rules pages).foundIn count := by
  rw [ofReport_eq, addPages_of_goesOn h]
  rfl

/-! ### Pages on their own -/

/-- A page that cannot be read changes nothing but the failed units of a report. -/
theorem withPages_of_unreadable {page : String} (h : Unreadable rules page)
    (front back : List String) :
    e.withPages rules (front ++ page :: back) =
      (e.withPages rules (front ++ back)).count .failed := by
  have hsource : SourceReport.onPage? page = none := by
    rw [Option.eq_none_iff_forall_ne_some]
    intro source hsource
    obtain ⟨fault, hfault⟩ := exists_read?_eq_error_iff.mpr h
    rw [read?, SourceReport.onPage?_eq_some_iff.mp hsource] at hfault
    cases hfault
  have hmetadata : metadataOf? (front ++ page :: back) = metadataOf? (front ++ back) := by
    unfold metadataOf?
    rw [List.filterMap_append, List.filterMap_append, List.filterMap_cons_none hsource]
  rw [withPages_eq, withPages_eq, hmetadata, count, Extraction.mk.injEq]
  constructor
  · simp [ofHtml_of_unreadable h, ofStats]
  · simp only [List.map_append, List.map_cons, List.sum_append, List.sum_cons,
      ofHtml_of_unreadable h, ofStats]
    abel

/-- A page that is extracted alone. -/
theorem ofReport_single (identity : ReportIdentity) {page : String} (h : ¬ IsChild rules page)
    (count : Nat) :
    let alone := ofReport rules identity [page] none count
    alone.document.sheets = (ofHtml rules page).sheets ∧
    alone.document.metadata = (ofHtml rules page).metadata ∧
    alone.stats = (ofHtml rules page).stats := by
  intro alone
  have halone : alone = (((ofIdentity identity).addPage (ofHtml rules page)).foundIn count) :=
    ofReport_pages (List.forall_mem_singleton.mpr h) count
  rw [halone, foundIn_sheets, foundIn_metadata, foundIn_stats]
  exact ⟨rfl, Option.or_none, zero_add _⟩

/-- What was found so far, followed by what was found elsewhere. -/
def followedBy (e other : Extraction) : Extraction where
  document :=
    { e.document with
      metadata := other.document.metadata.or e.document.metadata
      sheets := e.document.sheets ++ other.document.sheets }
  stats := e.stats + other.stats

/-- Reading a page fails exactly if the page cannot be read. -/
theorem sheetPage_error_iff (rules : Rules) (page : String) (e : Extraction) :
    (∃ error after, (Extracting.sheetPage rules page).run.run e = (.error error, after)) ↔
      Unreadable rules page := by
  rw [← exists_read?_eq_error_iff, Extracting.run_sheetPage]
  cases read? rules page with
  | error error => exact ⟨fun _ => ⟨error, rfl⟩, fun _ => ⟨error, e, rfl⟩⟩
  | ok result =>
      constructor
      · rintro ⟨error, after, h⟩
        cases (Prod.mk.inj h).1
      · nofun

/-- Nothing is half-recorded when reading a page fails. -/
theorem sheetPage_error_unchanged {page : String} {after : Extraction} {error : SourceError}
    (h : (Extracting.sheetPage rules page).run.run e = (.error error, after)) : after = e := by
  rw [Extracting.run_sheetPage] at h
  cases hread : read? rules page with
  | error error =>
      rw [hread] at h
      exact (Prod.mk.inj h).2.symm
  | ok result =>
      rw [hread] at h
      cases (Prod.mk.inj h).1

/-- What reading a page adds does not depend on what was found before it. -/
theorem sheetPage_goesOn {page : String} (hchild : ¬ IsChild rules page)
    (h : ¬ Unreadable rules page) (identity : ReportIdentity) (count : Nat) (e : Extraction) :
    (Extracting.sheetPage rules page).run.run e =
      (.ok .goesOn, e.followedBy (ofReport rules identity [page] none count)) := by
  obtain ⟨hsheets, hmetadata, hstats⟩ := ofReport_single identity hchild count
  have hends : (ofHtml rules page).endsReport = false := ofHtml_endsReport_eq_false_iff.mpr hchild
  rw [followedBy, hsheets, hmetadata, hstats, Extracting.run_sheetPage]
  unfold ofHtml at hends ⊢
  cases hread : read? rules page with
  | error error => exact absurd (exists_read?_eq_error_iff.mp ⟨error, hread⟩) h
  | ok result =>
      rw [hread] at hends
      dsimp only at hends ⊢
      rw [afterPage, hends]
      rfl

/-- **Pages are isolated.**  Reading a page changes what was found so far in steps.  It fails
exactly if the page cannot be read, at whatever stage, and then leaves everything as it was; else it
adds what the page comes to alone, whatever was found before.  So a report without a secondary
export that no page ends has the sheets of its pages, each extracted alone, in the order of the
pages, the sum of their counts, and the metadata of the last page with a structured source; and a
page that cannot be read adds one to the failed units and changes nothing else. -/
theorem pages_isolated (rules : Rules) (identity : ReportIdentity) (pages : List String)
    (h : ∀ page ∈ pages, ¬ IsChild rules page) (count single : Nat) :
    let whole := ofReport rules identity pages none count
    let alone := fun page => ofReport rules identity [page] none single
    let read := fun page e => (Extracting.sheetPage rules page).run.run e
    whole.document.sheets = pages.flatMap (fun page => (alone page).document.sheets) ∧
    whole.stats = (pages.map fun page => (alone page).stats).sum ∧
    whole.document.metadata =
      (pages.filterMap SourceReport.onPage?).getLast?.map SourceReport.metadata ∧
    (∀ page e, (∃ error after, read page e = (.error error, after)) ↔ Unreadable rules page) ∧
    (∀ page e error after, read page e = (.error error, after) → after = e) ∧
    (∀ page ∈ pages, ¬ Unreadable rules page →
      ∀ e, read page e = (.ok .goesOn, e.followedBy (alone page))) ∧
    ∀ front page back, pages = front ++ page :: back → Unreadable rules page →
      let others := ofReport rules identity (front ++ back) none count
      ((alone page).document.sheets = [] ∧ (alone page).document.metadata = none ∧
        (alone page).stats = .failed) ∧
      whole.document = others.document ∧ whole.stats = others.stats + .failed := by
  intro whole alone read
  have hwhole : whole = ((ofIdentity identity).withPages rules pages).foundIn count :=
    ofReport_pages h count
  have halone := fun page hpage => ofReport_single identity (h page hpage) single
  refine ⟨?_, ?_, ?_, sheetPage_error_iff rules, fun _ _ _ _ => sheetPage_error_unchanged,
    fun page hpage hread => sheetPage_goesOn (h page hpage) hread identity single, ?_⟩
  · rw [hwhole, foundIn_sheets, withPages_eq,
      List.flatMap_congr fun page hpage => (halone page hpage).1]
    rfl
  · rw [hwhole, foundIn_stats, withPages_eq,
      List.map_congr_left fun page hpage => (halone page hpage).2.2]
    exact zero_add _
  · rw [hwhole, foundIn_metadata, withPages_eq]
    exact Option.or_none
  · rintro front page back rfl hread
    have hothers : ∀ p ∈ front ++ back, ¬ IsChild rules p := fun p hp =>
      h p (((List.sublist_cons_self page back).append_left front).subset hp)
    obtain ⟨hsheets, hmetadata, hstats⟩ := halone page (by simp)
    refine ⟨?_, ?_⟩
    · rw [hsheets, hmetadata, hstats, ofHtml_of_unreadable hread]
      exact ⟨rfl, rfl, rfl⟩
    · rw [hwhole, withPages_of_unreadable hread, ofReport_pages hothers, foundIn_count]
      exact ⟨rfl, rfl⟩

/-- A page with the notes to a report, which are recorded without tables. -/
def notesPage : String :=
  "<script>var datasource=\x7b\"sheets\":[\x7b" ++
    "\"title_Fa\":\"Notes\",\"title_En\":\"Interpretative\"\x7d]\x7d</script>"

theorem notesPage_adds : ¬ IsChild defaultRules notesPage ∧
    (ofHtml defaultRules notesPage).sheets.map Sheet.titleFa = [some "Notes"] := by
  rw [← ofHtml_endsReport_eq_false_iff]
  decide +kernel

/-- A page that has no data and shows no sheet. -/
def blankPage : String := "<p>"

theorem blankPage_unreadable : Unreadable defaultRules blankPage :=
  exists_read?_eq_error_iff.mp (Except.exists_eq_error_iff.mpr (by decide +kernel))

theorem blankPage_goesOn : ¬ IsChild defaultRules blankPage := by
  rw [← ofHtml_endsReport_eq_false_iff, ofHtml_of_unreadable blankPage_unreadable]
  rfl

/-- Two pages with notes, and one between them that cannot be read, whatever was found before. -/
theorem pages_isolated_notes :
    let pages := [notesPage, blankPage, notesPage]
    let whole := ofReport defaultRules [] pages none 3
    let others := ofReport defaultRules [] [notesPage, notesPage] none 3
    let first := ofReport defaultRules [] [notesPage] none 1
    (∀ page ∈ pages, ¬ IsChild defaultRules page) ∧ Unreadable defaultRules blankPage ∧
    (∃ error, (Extracting.sheetPage defaultRules blankPage).run.run first =
      (.error error, first)) ∧
    whole.document.sheets.map Sheet.titleFa = [some "Notes", some "Notes"] ∧
    whole.document = others.document ∧ whole.stats = others.stats + .failed := by
  intro pages whole others first
  have h : ∀ page ∈ pages, ¬ IsChild defaultRules page := by
    simp [pages, notesPage_adds.1, blankPage_goesOn]
  obtain ⟨hsheets, -, -, hfails, hunchanged, -, hunreadable⟩ :=
    pages_isolated defaultRules [] pages h 3 1
  obtain ⟨⟨hnone, -, -⟩, hothers⟩ :=
    hunreadable [notesPage] blankPage [notesPage] rfl blankPage_unreadable
  obtain ⟨error, after, hread⟩ := (hfails blankPage first).mpr blankPage_unreadable
  refine ⟨h, blankPage_unreadable, ⟨error, ?_⟩, ?_, hothers⟩
  · obtain rfl : after = first := hunchanged blankPage first error after hread
    exact hread
  · rw [hsheets]
    simp [pages, hnone, (ofReport_single [] notesPage_adds.1 1).1, notesPage_adds.2]

/-! ### Reports that end early -/

theorem ofSource_of_child {source : SourceReport} (h : rules.isChildReport source.title = true) :
    ofSource rules source = ⟨some source.metadata, [], .zero, true⟩ :=
  if_pos h

/-- The extraction of a report at the page that ends it. -/
theorem addPages_of_child {front : List String} (hfront : ∀ p ∈ front, ¬ IsChild rules p)
    {page : String} {source : SourceReport} (hsource : SourceReport.onPage? page = some source)
    (hchild : rules.isChildReport source.title = true) (back : List String) :
    addPages rules e (front ++ page :: back) =
      .inl ⟨{ (e.withPages rules front).document with
          metadata := some source.metadata
          insertOnly := true }, (e.withPages rules front).stats⟩ := by
  have hends : (ofHtml rules page) = ⟨some source.metadata, [], 0, true⟩ :=
    (ofHtml_of_source hsource).trans (ofSource_of_child hchild)
  rw [addPages_append e hfront, addPages, hends]
  simp [addPage, ReportDocument.markInsertOnly]

/-- What a report comes to that ends early, whatever follows. -/
theorem ofReport_of_child {front : List String} (hfront : ∀ p ∈ front, ¬ IsChild rules p)
    {page : String} {source : SourceReport} (hsource : SourceReport.onPage? page = some source)
    (hchild : rules.isChildReport source.title = true) (back : List String)
    (secondary : Option String) (count : Nat) :
    ofReport rules identity (front ++ page :: back) secondary count =
      ⟨{ ((ofIdentity identity).withPages rules front).document with
          metadata := some source.metadata
          insertOnly := true }, ((ofIdentity identity).withPages rules front).stats⟩ := by
  rw [ofReport_eq, addPages_of_child hfront hsource hchild]

/-- **A page about another company ends a report.**  What comes after the first such page, the
secondary export and the number of files make no difference.  The report is to be recorded only and
has the metadata of that page; its sheets and counts are those of the pages before it. -/
theorem child_page_ends (rules : Rules) (identity : ReportIdentity) (front : List String)
    (page : String) (source : SourceReport) (hfront : ∀ p ∈ front, ¬ IsChild rules p)
    (hsource : SourceReport.onPage? page = some source)
    (hchild : rules.isChildReport source.title = true) (back : List String)
    (secondary : Option String) (count : Nat) :
    let ended := ofReport rules identity (front ++ page :: back) secondary count
    (∀ back' secondary' count',
      ofReport rules identity (front ++ page :: back') secondary' count' = ended) ∧
    ended.document.insertOnly = true ∧ ended.document.noFile = false ∧
    ended.document.metadata = some source.metadata ∧
    ∀ count', let before := ofReport rules identity front none count'
      ended.document.sheets = before.document.sheets ∧ ended.stats = before.stats := by
  intro ended
  have hended : ended = _ := ofReport_of_child hfront hsource hchild back secondary count
  refine ⟨fun _ _ _ => (ofReport_of_child hfront hsource hchild ..).trans hended.symm, ?_, ?_, ?_,
    fun count' => ?_⟩
  · rw [hended]
  · rw [hended, withPages_eq]
    rfl
  · rw [hended]
  · intro before
    have hbefore : before = _ := ofReport_pages hfront count'
    rw [hended, hbefore, foundIn_sheets, foundIn_stats]
    exact ⟨rfl, rfl⟩

/-- A page about another company. -/
def childPage : String := "<script>var datasource=\x7b\"title_En\":\"Child\"\x7d</script>"

/-- A report whose third page ends it, after notes and a page that cannot be read. -/
theorem child_page_ends_third :
    ∃ source, SourceReport.onPage? childPage = some source ∧
      defaultRules.isChildReport source.title = true ∧
      let ended := ofReport defaultRules [] [notesPage, blankPage, childPage, notesPage] none 4
      ended = ofReport defaultRules [] [notesPage, blankPage, childPage] (some "<h3>Costs</h3>") 0 ∧
      ended.document.insertOnly = true ∧ ended.document.metadata = some source.metadata ∧
      ended.stats = (ofReport defaultRules [] [notesPage, blankPage] none 2).stats := by
  have hchild : IsChild defaultRules childPage := by
    rw [← ofHtml_endsReport_iff]
    decide +kernel
  obtain ⟨source, hsource, hmarked⟩ := hchild
  have hfront : ∀ page ∈ [notesPage, blankPage], ¬ IsChild defaultRules page := by
    simp [notesPage_adds.1, blankPage_goesOn]
  obtain ⟨hsame, hinsert, -, hmetadata, hbefore⟩ := child_page_ends defaultRules []
    [notesPage, blankPage] childPage source hfront hsource hmarked [notesPage] none 4
  exact ⟨source, hsource, hmarked, (hsame [] (some "<h3>Costs</h3>") 0).symm, hinsert, hmetadata,
    (hbefore 2).2⟩

end Extraction

end StatementTables
