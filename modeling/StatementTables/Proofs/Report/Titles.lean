import StatementTables.Proofs.Report.Secondary
import StatementTables.Proofs.Text.Trimming

/-! # One title, read three times

The title of a sheet is cleaned where it is read: not at all in structured data, of line feeds, tabs
and white space at its ends in the choice of a shown page, of line feeds and white space at its ends
in a heading of the secondary export, where moreover only the first text counts.  A section of the
secondary export is taken for a repetition exactly if the cleaned titles are equal.
`TitleSource.Recognises` says when they are, for a heading that has the text of the title
(`titleOf_eq_clean_iff`): then the section is as good as absent, and otherwise a sheet can come up
twice (`repetition_recognised`). -/

namespace StatementTables

open Html Text

/-! ### Titles on pages -/

/-- Where a page has the title of its sheet: in its data or in the choice of the sheet it shows. -/
inductive TitleSource where
  | data
  | choice
  deriving DecidableEq, Repr

/-- What becomes of a title from a source. -/
def TitleSource.clean : TitleSource → String → String
  | data, title => title
  | choice, title => .ofList (trimChars (without '\t' (without '\n' title.toList)))

/-- The title that a page has for its sheet, as it stands on the page. -/
def sourceTitle? (html : String) : Option (TitleSource × String) :=
  match SourceReport.onPage? html with
  | some source => (source.sheets.head?.bind SourceSheet.titleFa).map (.data, ·)
  | none => (RenderedPage.selectedSheet? (Document.ofString html).root).map fun choice =>
      (.choice, choice.content)

section pages
variable {rules : Rules} {html : String}

/-- The title of a sheet that is added has been cleaned, and nothing else has happened to it. -/
def TitledFrom (html : String) (sheet : Sheet) : Prop :=
  sheet.titleFa = (sourceTitle? html).map fun title => title.1.clean title.2

theorem sourceTitle?_of_source {source : SourceReport}
    (h : SourceReport.onPage? html = some source) :
    sourceTitle? html = (source.sheets.head?.bind SourceSheet.titleFa).map (.data, ·) := by
  unfold sourceTitle?
  rw [h]

theorem sourceTitle?_of_noSource (h : SourceReport.onPage? html = none) :
    sourceTitle? html = (RenderedPage.selectedSheet? (Document.ofString html).root).map
      fun choice => (.choice, choice.content) := by
  unfold sourceTitle?
  rw [h]

theorem PageResult.titleFa_of_mem_ofSheet {source : SourceSheet} :
    ∀ sheet ∈ (ofSheet rules source).1, sheet.titleFa = source.titleFa := by
  simp only [ofSheet]
  split
  · exact List.forall_mem_singleton.mpr rfl
  · split
    · exact nofun
    · exact List.forall_mem_singleton.mpr rfl

theorem PageResult.titleFa_of_mem_ofSource {source : SourceReport} :
    ∀ sheet ∈ (ofSource rules source).sheets,
      sheet.titleFa = source.sheets.head?.bind SourceSheet.titleFa := by
  unfold ofSource
  split
  · exact nofun
  · split
    · exact nofun
    · rename_i first rest hsheets
      rw [hsheets]
      exact titleFa_of_mem_ofSheet

theorem PageResult.titleFa_of_mem_ofRendered? {page : RenderedPage} {result : PageResult}
    (h : ofRendered? rules page = .ok result) :
    ∀ sheet ∈ result.sheets, sheet.titleFa = some page.title := by
  unfold ofRendered? at h
  split at h
  · cases h
    exact nofun
  · split at h
    · cases h
      exact nofun
    · split at h
      · cases h
        exact nofun
      · obtain ⟨segmented, -, h⟩ := Except.bind_eq_ok_iff.mp h
        split at h <;> cases h
        · exact nofun
        · exact nofun
        · exact List.forall_mem_singleton.mpr rfl

theorem RenderedPage.title_of_ofHtml? {page : RenderedPage} (h : ofHtml? html = .ok page) :
    ∃ choice, selectedSheet? (Document.ofString html).root = some choice ∧
      page.title = titleOf choice := by
  unfold ofHtml? at h
  dsimp only at h
  split at h
  · cases h
  · rename_i choice hchoice
    split at h <;> cases h
    exact ⟨choice, hchoice, rfl⟩

theorem titledFrom_of_mem_sheets :
    ∀ sheet ∈ (PageResult.ofHtml rules html).sheets, TitledFrom html sheet := by
  refine PageResult.ofHtml_cases (P := fun page => ∀ sheet ∈ page.sheets, TitledFrom html sheet)
    ?_ ?_ nofun
  · intro source hsource sheet hsheet
    rw [TitledFrom, PageResult.titleFa_of_mem_ofSource sheet hsheet, sourceTitle?_of_source hsource,
      Option.map_map]
    exact Option.map_id'.symm
  · intro page result hsource hpage hresult sheet hsheet
    obtain ⟨choice, hchoice, htitle⟩ := RenderedPage.title_of_ofHtml? hpage
    rw [TitledFrom, PageResult.titleFa_of_mem_ofRendered? hresult sheet hsheet,
      sourceTitle?_of_noSource hsource, hchoice, htitle]
    rfl

end pages

/-! ### Titles of sections -/

/-- The first text below a node. -/
def Html.Node.firstText (node : Node) : String :=
  node.texts.headD ""

theorem Html.Node.content_toList (node : Node) :
    node.content.toList = node.firstText.toList ++ node.texts.tail.flatMap String.toList := by
  unfold content firstText
  rw [String.toList_join]
  cases node.texts <;> rfl

/-- When a heading with the text of a title is read as that title.  In structured data the title has
to be on one line, without white space at its ends, and the heading has to have it in one piece.
The title of a choice needs less: white space may follow the first piece of the heading, and tabs do
no harm outside the words. -/
def TitleSource.Recognises (title : String) (heading : Node) : TitleSource → Prop
  | data => heading.firstText = title ∧ '\n' ∉ title.toList ∧ trim title = title
  | choice => (∀ text ∈ heading.texts.tail, isBlank text = true) ∧
      '\t' ∉ trimChars (without '\n' heading.firstText.toList)

section headings
variable {title : String} {heading : Node}

theorem titleOf_eq_iff (h : heading.content = title) :
    Section.titleOf heading = title ↔ TitleSource.data.Recognises title heading := by
  have hcontent := heading.content_toList
  rw [h] at hcontent
  have htitleOf : (Section.titleOf heading).toList =
      trimChars (without '\n' heading.firstText.toList) := String.toList_ofList
  constructor
  · intro heq
    rw [heq, hcontent] at htitleOf
    -- cleaning makes no text longer, so there was nothing to clean
    have hsub := (trimChars_sublist (without '\n' heading.firstText.toList)).trans
      (List.filter_sublist (l := heading.firstText.toList))
    have hlength := hsub.length_le
    rw [← htitleOf, List.length_append] at hlength
    have hrest : heading.texts.tail.flatMap String.toList = [] :=
      List.length_eq_zero_iff.mp (by omega)
    rw [hrest, List.append_nil] at hcontent htitleOf
    have hfirst : heading.firstText = title := (String.toList_inj.mp hcontent).symm
    have hwithout : without '\n' heading.firstText.toList = heading.firstText.toList :=
      List.filter_sublist.eq_of_length_le
        ((congrArg List.length htitleOf).trans_le (trimChars_sublist _).length_le)
    rw [hwithout] at htitleOf
    refine ⟨hfirst, ?_, ?_⟩
    · rw [← hfirst]
      exact without_eq_self_iff.mp hwithout
    · rw [← hfirst, trim, ← htitleOf, String.ofList_toList]
  · rintro ⟨hfirst, hline, htrim⟩
    rw [← String.toList_inj, htitleOf, hfirst, without_eq_self_iff.mpr hline]
    exact (String.toList_ofList.symm.trans (congrArg String.toList htrim))

/-- A heading with the text of a title is read as the title of a sheet exactly if it is
recognised. -/
theorem titleOf_eq_clean_iff (source : TitleSource) (h : heading.content = title) :
    Section.titleOf heading = source.clean title ↔ source.Recognises title heading := by
  cases source with
  | data => exact titleOf_eq_iff h
  | choice =>
      have hrest : (∀ text ∈ heading.texts.tail, isBlank text = true) ↔
          Blank (without '\n' (heading.texts.tail.flatMap String.toList)) := by
        rw [blank_without_iff (by decide), blank_flatMap_iff]
      show _ ↔ (∀ text ∈ heading.texts.tail, isBlank text = true) ∧ _
      rw [hrest, ← trimChars_eq_trimChars_without_append_iff (by decide), ← without_append,
        ← heading.content_toList, h]
      exact String.ofList_inj

end headings

/-! ### Reports -/

namespace Extraction

open PageResult

variable {rules : Rules} {identity : ReportIdentity}

/-- The sheets of the pages are there before the secondary export is read, and they stay. -/
theorem mem_withSections_of_mem_page {pages : List String}
    (h : ∀ page ∈ pages, ¬ IsChild rules page) {page : String} (hpage : page ∈ pages)
    {sheet : Sheet} (hsheet : sheet ∈ (ofHtml rules page).sheets) (count : Nat)
    (sections : List Section) :
    sheet ∈ ((ofReport rules identity pages none count).withSections rules
      sections).document.sheets := by
  obtain ⟨added, -, hdocument⟩ : ∃ added, FillsGaps rules _ sections added ∧ _ :=
    exists_fillsGaps (ofReport rules identity pages none count) sections
  rw [hdocument, ofReport_pages h, foundIn_sheets, withPages_eq]
  exact List.mem_append_left _
    (List.mem_append_right _ (List.mem_flatMap.mpr ⟨page, hpage, hsheet⟩))

/-- No secondary export is read for a report that a page ends. -/
theorem ofReport_of_exists_child {pages : List String} (h : ∃ page ∈ pages, IsChild rules page)
    (secondary : Option String) (count : Nat) :
    ofReport rules identity pages secondary count = ofReport rules identity pages none count := by
  obtain ⟨ended, hended⟩ : ∃ ended, addPages rules (ofIdentity identity) pages = .inl ended := by
    generalize ofIdentity identity = e
    induction pages generalizing e with
    | nil => simp at h
    | cons page pages ih =>
        cases hends : (ofHtml rules page).endsReport with
        | true => exact ⟨_, by simp only [addPages, hends]; rfl⟩
        | false =>
            have hnot : ¬ IsChild rules page := ofHtml_endsReport_eq_false_iff.mp hends
            obtain ⟨ended, hended⟩ := ih (by simpa [hnot] using h) (e.addPage (ofHtml rules page))
            exact ⟨ended, by simpa [addPages, hends] using hended⟩
  rw [ofReport_eq, ofReport_eq, hended]

/-- **When a repetition is recognised.**  A page adds a sheet, and a heading of the secondary export
has the very text that is the title of the sheet on the page.  The section has the title of the
sheet exactly if the heading is recognised.  Then the report is the one without the section.
Otherwise the section adds what it holds, a second sheet, unless some other sheet has its title; but
a report that a page ends has no sections. -/
theorem repetition_recognised (rules : Rules) (identity : ReportIdentity) (pages : List String)
    (count : Nat) (page : String) (hpage : page ∈ pages) (sheet : Sheet)
    (hsheet : sheet ∈ (ofHtml rules page).sheets) (source : TitleSource) (title : String)
    (htitle : sourceTitle? page = some (source, title)) (html : String)
    (front back : List Html.Placed) (heading : Html.Placed)
    (hheadings : (Html.Document.ofString html).select "h3" = front ++ heading :: back)
    (hcontent : heading.node.content = title) :
    let primary := ofReport rules identity pages none count
    let full := ofReport rules identity pages (some html) count
    let s := Section.ofHeading rules heading
    let before := primary.withSections rules (front.map (Section.ofHeading rules))
    (sheet.titleFa = some s.title ↔ source.Recognises title heading.node) ∧
    ((∃ page ∈ pages, IsChild rules page) → full = primary) ∧
    ((∀ page ∈ pages, ¬ IsChild rules page) →
      (source.Recognises title heading.node →
        full = before.withSections rules (back.map (Section.ofHeading rules))) ∧
      ((∀ old ∈ before.document.sheets, old.titleFa ≠ some s.title) →
        ¬ source.Recognises title heading.node ∧ ∀ new stats, s.Adds rules (some new) stats →
          full = (before.adding (some new) stats).withSections rules
            (back.map (Section.ofHeading rules)))) := by
  intro primary full s before
  have htitles : sheet.titleFa = some s.title ↔ source.Recognises title heading.node := by
    rw [← titleOf_eq_clean_iff source hcontent, titledFrom_of_mem_sheets sheet hsheet, htitle]
    exact Option.some_inj.trans eq_comm
  refine ⟨htitles, fun h => ofReport_of_exists_child h (some html) count, fun h => ?_⟩
  have hfull : full = primary.withSections rules
      (front.map (Section.ofHeading rules) ++ s :: back.map (Section.ofHeading rules)) := by
    have hsecondary : full = _ := ofReport_secondary h html count
    rw [hsecondary, Section.ofHtml, hheadings, List.map_append, List.map_cons]
  have hthere : sheet ∈ before.document.sheets :=
    mem_withSections_of_mem_page h hpage hsheet count _
  have hturn : InTurn rules primary _ s _ := inTurn primary
    (front.map (Section.ofHeading rules)) s (back.map (Section.ofHeading rules))
  refine ⟨fun hrecognised => ?_, fun hnew => ⟨fun hrecognised => ?_, fun new stats hadds => ?_⟩⟩
  · have hknown : before.document.hasTitle s.title = true := by
      rw [← Bool.not_eq_false, hasTitle_eq_false_iff]
      exact fun hnew => hnew sheet hthere (htitles.mpr hrecognised)
    rw [hfull, hturn.known hknown, withSections_append]
  · exact hnew sheet hthere (htitles.mpr hrecognised)
  · rw [hfull, hturn.added (hasTitle_eq_false_iff.mpr hnew) new stats hadds]

/-- A secondary export of one section, with its heading as it is written. -/
def sectionOf (heading : String) : String :=
  "<h3>" ++ heading ++ "</h3><table><th>شرح<th>A<tr><td>x<td>1"

/-- A section with notes is recognised, although it has a table of its own. -/
theorem repetition_recognised_notes :
    ∃ sheet heading, sheet ∈ (ofHtml defaultRules notesPage).sheets ∧
      sourceTitle? notesPage = some (.data, "Notes") ∧
      (Html.Document.ofString (sectionOf "Notes")).select "h3" = [heading] ∧
      heading.node.content = "Notes" ∧ TitleSource.data.Recognises "Notes" heading.node ∧
      ofReport defaultRules [] [notesPage] (some (sectionOf "Notes")) 1 =
        ofReport defaultRules [] [notesPage] none 1 := by
  have hheading : ((Html.Document.ofString (sectionOf "Notes")).select "h3").map
      (fun h => (h.node.content, h.node.firstText)) = [("Notes", "Notes")] := by
    decide +kernel
  have htitle : sourceTitle? notesPage = some (.data, "Notes") := by decide +kernel
  obtain ⟨hgoesOn, hsheets⟩ := notesPage_adds
  obtain ⟨sheet, hsheet, -⟩ := List.map_eq_singleton_iff.mp hsheets
  obtain ⟨heading, hselect, htexts⟩ := List.map_eq_singleton_iff.mp hheading
  have hmem : sheet ∈ (ofHtml defaultRules notesPage).sheets := by simp [hsheet]
  obtain ⟨hcontent, hfirst⟩ := Prod.mk.inj htexts
  have hrecognised : TitleSource.data.Recognises "Notes" heading.node :=
    ⟨hfirst, by decide, by decide⟩
  obtain ⟨-, -, hread⟩ := repetition_recognised defaultRules [] [notesPage] 1 notesPage
    List.mem_cons_self sheet hmem .data "Notes" htitle (sectionOf "Notes") [] [] heading hselect
    hcontent
  exact ⟨sheet, heading, hmem, htitle, hselect, hcontent, hrecognised,
    (hread (List.forall_mem_singleton.mpr hgoesOn)).1 hrecognised⟩

/-- A page that shows a table, with the choice of its sheet as it is written. -/
def shownPage (choice : String) : String :=
  "<option selected value=1>" ++ choice ++ "</option><table><th>شرح<th>A<tr><td>x<td>1"

/-- A page whose data has a sheet to be recorded only, under a title. -/
def recordedPage (title : String) : String :=
  "<script>var datasource=\x7b\"sheets\":[\x7b\"title_Fa\":\"" ++ title ++
    "\",\"title_En\":\"Interpretative\"\x7d]\x7d</script>"

/-- The titles of the sheets of a report with one page and one section, if the text of the heading
is the title that the page has for its sheet. -/
def titlesTogether? (page html : String) : Option (List (Option String)) :=
  if ((Html.Document.ofString html).select "h3").map (some ·.node.content) =
      [(sourceTitle? page).map Prod.snd] then
    some ((ofReport defaultRules [] [page] (some html) 1).document.sheets.map Sheet.titleFa)
  else none

/-- White space at the end of a title in structured data, a tab in that of a choice, and a heading
in two pieces: each time the sheet comes up twice. -/
theorem repetition_missed :
    titlesTogether? (recordedPage "Notes ") (sectionOf "Notes ") =
        some [some "Notes ", some "Notes"] ∧
      titlesTogether? (shownPage "Net\tsales") (sectionOf "Net\tsales") =
        some [some "Netsales", some "Net\tsales"] ∧
      titlesTogether? notesPage (sectionOf "<b>No</b>tes") =
        some [some "Notes", some "No"] := by
  decide +kernel

end Extraction

end StatementTables
