import StatementTables.Proofs.Json.Fields
import StatementTables.Proofs.Report.Secondary

/-! # Putting a document together

A document is put together in steps: metadata is set, sheets are added and marks are made, in any
order and any number of times (`Step`, `assemble`).  What a run of steps leaves is its last
metadata, its sheets in order and the marks it made (`metadata_assemble`, `sheets_assemble`,
`insertOnly_assemble_iff`, `noFile_assemble_iff`).

The document is then written over the fields that the report was listed with, whatever their names:
first the metadata, then the sheets and the marks (`get?_toFields`).  So each field has the value of
the last layer that has one, and none is there twice (`assemble_layers`).  The document of every
report comes about in such steps, and is so layered (`ofReport_layered`). -/

namespace StatementTables

/-- The fields that metadata is written in, with their values. -/
def ReportMetadata.described (m : ReportMetadata) : List (String × Json) :=
  [("title_Fa", m.titleFa.getD .null), ("title_En", m.titleEn.getD .null),
    ("period", m.period.getD .null), ("yearEndToDate", m.yearEndToDate.getD .null),
    ("kind", m.kind.getD .null), ("type", m.reportType.getD .null),
    ("isAudited", m.isAudited.getD .null), ("state", m.state.getD .null),
    ("version", .strings m.version), ("title_info", .strings m.titleInfo)]

/-- The names of these fields. -/
def ReportMetadata.names : List String :=
  ["title_Fa", "title_En", "period", "yearEndToDate", "kind", "type", "isAudited", "state",
    "version", "title_info"]

namespace ReportMetadata

variable (m : ReportMetadata)

theorem map_described : m.described.map Prod.fst = names := rfl

theorem described_nodup : (m.described.map Prod.fst).Nodup := by
  rw [map_described]
  decide

theorem get?_toFields_of_mem {f : String × Json} (h : f ∈ m.described) :
    Fields.get? m.toFields f.1 = some f.2 := by
  have hlist : m.toFields = Fields.ofList m.described := rfl
  rw [hlist, Fields.get?_ofList m.described_nodup]
  exact lookup_eq_of_mem m.described_nodup h

theorem get?_toFields_of_notMem {name : String} (h : name ∉ names) :
    Fields.get? m.toFields name = none := by
  have hlist : m.toFields = Fields.ofList m.described := rfl
  rw [hlist, Fields.get?_ofList m.described_nodup]
  exact lookup_eq_none_of_notMem (by rwa [map_described])

end ReportMetadata

namespace ReportDocument

/-! ### Steps -/

/-- One step of putting a document together. -/
inductive Step where
  | describe (metadata : ReportMetadata)
  | add (sheet : Sheet)
  | markInsertOnly
  | markNoFile

def Step.apply (doc : ReportDocument) : Step → ReportDocument
  | .describe metadata => doc.withMetadata metadata
  | .add sheet => doc.addSheet sheet
  | .markInsertOnly => doc.markInsertOnly
  | .markNoFile => doc.markNoFile

/-- The sheet that a step adds. -/
def Step.sheet? : Step → Option Sheet
  | .add sheet => some sheet
  | _ => none

/-- The document of a report after some steps. -/
def assemble (identity : ReportIdentity) (steps : List Step) : ReportDocument :=
  steps.foldl Step.apply (ofIdentity identity)

section run
variable (doc : ReportDocument) (identity : ReportIdentity) (steps : List Step)

theorem identity_foldl : (steps.foldl Step.apply doc).identity = doc.identity := by
  induction steps generalizing doc with
  | nil => rfl
  | cons step steps ih =>
      rw [List.foldl_cons, ih]
      cases step <;> rfl

theorem identity_assemble : (assemble identity steps).identity = identity :=
  identity_foldl _ steps

theorem sheets_foldl :
    (steps.foldl Step.apply doc).sheets = doc.sheets ++ steps.filterMap Step.sheet? := by
  induction steps generalizing doc with
  | nil => exact (List.append_nil _).symm
  | cons step steps ih =>
      rw [List.foldl_cons, ih]
      cases step with
      | add sheet => exact List.append_assoc _ _ _
      | _ => rfl

/-- The sheets are those that were added, in this order. -/
theorem sheets_assemble : (assemble identity steps).sheets = steps.filterMap Step.sheet? :=
  (sheets_foldl _ steps).trans (List.nil_append _)

theorem mem_sheets_assemble_iff {sheet : Sheet} :
    sheet ∈ (assemble identity steps).sheets ↔ .add sheet ∈ steps := by
  rw [sheets_assemble, List.mem_filterMap]
  constructor
  · rintro ⟨step, hstep, hsheet⟩
    cases step with
    | add other =>
        cases hsheet
        exact hstep
    | _ => cases hsheet
  · exact fun h => ⟨_, h, rfl⟩

theorem metadata_foldl_of_none (h : ∀ m, .describe m ∉ steps) :
    (steps.foldl Step.apply doc).metadata = doc.metadata := by
  induction steps generalizing doc with
  | nil => rfl
  | cons step steps ih =>
      have hrest : ∀ m, .describe m ∉ steps := fun m hm => h m (List.mem_cons_of_mem _ hm)
      rw [List.foldl_cons, ih _ hrest]
      cases step with
      | describe m => exact absurd List.mem_cons_self (h m)
      | _ => rfl

/-- The metadata is the last that was set. -/
theorem metadata_assemble {front back : List Step} {m : ReportMetadata}
    (h : ∀ m', .describe m' ∉ back) :
    (assemble identity (front ++ .describe m :: back)).metadata = some m := by
  unfold assemble
  rw [List.foldl_append, List.foldl_cons, metadata_foldl_of_none _ _ h]
  rfl

/-- A mark that one step makes, and that the others leave as it is, is there after a run exactly if
it was there before or the step was taken. -/
theorem mark_foldl_iff {isMarked : ReportDocument → Bool} {marking : Step}
    (h : ∀ doc step, isMarked (step.apply doc) = true ↔ isMarked doc = true ∨ marking = step) :
    isMarked (steps.foldl Step.apply doc) = true ↔ isMarked doc = true ∨ marking ∈ steps := by
  induction steps generalizing doc with
  | nil => simp
  | cons step steps ih => rw [List.foldl_cons, ih, h, or_assoc, List.mem_cons]

theorem insertOnly_assemble_iff :
    (assemble identity steps).insertOnly = true ↔ .markInsertOnly ∈ steps := by
  have hstep (doc : ReportDocument) (step : Step) : (step.apply doc).insertOnly = true ↔
      doc.insertOnly = true ∨ .markInsertOnly = step := by
    cases step <;> simp [Step.apply, withMetadata, addSheet, ReportDocument.markInsertOnly,
      ReportDocument.markNoFile]
  exact (mark_foldl_iff _ _ hstep).trans (by simp [ofIdentity])

theorem noFile_assemble_iff : (assemble identity steps).noFile = true ↔ .markNoFile ∈ steps := by
  have hstep (doc : ReportDocument) (step : Step) : (step.apply doc).noFile = true ↔
      doc.noFile = true ∨ .markNoFile = step := by
    cases step <;> simp [Step.apply, withMetadata, addSheet, ReportDocument.markInsertOnly,
      ReportDocument.markNoFile]
  exact (mark_foldl_iff _ _ hstep).trans (by simp [ofIdentity])

end run

/-! ### Layers -/

section layers
variable {doc : ReportDocument}

theorem ordered_mark {name : String} {isSet : Bool} {fields : Fields} (h : fields.Ordered) :
    (mark name isSet fields).Ordered := by
  unfold mark
  split
  · exact h.insert
  · exact h

theorem ordered_toFields (h : Fields.Ordered doc.identity) : doc.toFields.Ordered :=
  ordered_mark (ordered_mark (h.merge _).insert)

theorem get?_mark (name : String) (isSet : Bool) (fields : Fields) (other : String) :
    Fields.get? (mark name isSet fields) other =
      if isSet = true ∧ other = name then some (.bool true) else Fields.get? fields other := by
  unfold mark
  cases isSet with
  | true => simp [Fields.get?_insert]
  | false => simp

/-- A field is written by a mark, by the sheets, by the metadata, or not at all. -/
theorem get?_toFields (doc : ReportDocument) (name : String) :
    Fields.get? doc.toFields name =
      if doc.noFile = true ∧ name = "no_file" then some (.bool true)
      else if doc.insertOnly = true ∧ name = "to_insert" then some (.bool true)
      else if name = "sheets" then some (.array (doc.sheets.map Sheet.toJson))
      else (doc.metadata.bind fun m => Fields.get? m.toFields name).or
        (Fields.get? doc.identity name) := by
  unfold toFields
  dsimp only
  rw [get?_mark, get?_mark, Fields.get?_insert]
  cases doc.metadata with
  | none => rfl
  | some m =>
      have hnodup : (m.toFields.map Prod.fst).Nodup := (Fields.ordered_ofList _).nodup
      rw [Option.map_some, Option.getD_some, Fields.get?_merge hnodup]
      rfl

end layers

/-- What the fields of a document are after some steps, by layers. -/
structure IsLayered (identity : ReportIdentity) (steps : List Step) (fields : Fields) : Prop where
  /-- No field is there twice. -/
  names : (fields.map Prod.fst).Nodup
  /-- The sheets that were added, in this order. -/
  sheets : Fields.get? fields "sheets" =
    some (.array ((steps.filterMap Step.sheet?).map Sheet.toJson))
  /-- A mark that was made at any time is true. -/
  marked : (.markInsertOnly ∈ steps → Fields.get? fields "to_insert" = some (.bool true)) ∧
    (.markNoFile ∈ steps → Fields.get? fields "no_file" = some (.bool true))
  /-- A mark that was never made is as listed. -/
  unmarked :
    (.markInsertOnly ∉ steps → Fields.get? fields "to_insert" = Fields.get? identity "to_insert") ∧
    (.markNoFile ∉ steps → Fields.get? fields "no_file" = Fields.get? identity "no_file")
  /-- The last metadata that was set is there as a whole. -/
  described : ∀ front m back, steps = front ++ .describe m :: back →
    (∀ m', .describe m' ∉ back) → ∀ f ∈ m.described, Fields.get? fields f.1 = some f.2
  /-- Every other field is as listed. -/
  kept : ∀ name, name ∉ ["sheets", "to_insert", "no_file"] →
    (name ∈ ReportMetadata.names → ∀ m, .describe m ∉ steps) →
    Fields.get? fields name = Fields.get? identity name

/-- Metadata has none of the names that the sheets and the marks are written under. -/
theorem metadata_names_apart : ∀ name ∈ ["sheets", "to_insert", "no_file"],
    name ∉ ReportMetadata.names := by
  decide

theorem isLayered_toFields {identity : ReportIdentity} (h : Fields.Ordered identity)
    (steps : List Step) : IsLayered identity steps (assemble identity steps).toFields := by
  have hidentity : (assemble identity steps).identity = identity := identity_assemble identity steps
  have hmetadata : ∀ name ∈ ["sheets", "to_insert", "no_file"],
      ((assemble identity steps).metadata.bind fun m => Fields.get? m.toFields name) = none := by
    intro name hname
    rw [Option.bind_eq_none_iff]
    exact fun m _ => m.get?_toFields_of_notMem (metadata_names_apart name hname)
  constructor
  case names =>
    exact (ordered_toFields (hidentity.symm ▸ h)).nodup
  case sheets =>
    rw [get?_toFields, sheets_assemble]
    simp
  case marked =>
    rw [← insertOnly_assemble_iff identity, ← noFile_assemble_iff identity, get?_toFields,
      get?_toFields]
    exact ⟨fun hmark => by simp [hmark], fun hmark => by simp [hmark]⟩
  case unmarked =>
    rw [← insertOnly_assemble_iff identity, ← noFile_assemble_iff identity, get?_toFields,
      get?_toFields, hmetadata _ (by simp), hmetadata _ (by simp), hidentity]
    exact ⟨fun hmark => by simp [hmark], fun hmark => by simp [hmark]⟩
  case described =>
    rintro front m back rfl hlast f hf
    have hname : f.1 ∈ ReportMetadata.names := m.map_described ▸ List.mem_map_of_mem hf
    have hapart : ∀ name ∈ ["sheets", "to_insert", "no_file"], f.1 ≠ name :=
      fun name hmem heq => metadata_names_apart name hmem (heq ▸ hname)
    rw [get?_toFields, metadata_assemble _ hlast, Option.bind_some, m.get?_toFields_of_mem hf,
      if_neg (fun hmark => hapart _ (by simp) hmark.2),
      if_neg (fun hmark => hapart _ (by simp) hmark.2), if_neg (hapart _ (by simp))]
    rfl
  case kept =>
    intro name hname hnone
    simp only [List.mem_cons, List.not_mem_nil, or_false, not_or] at hname
    obtain ⟨hsheets, hinsert, hfile⟩ := hname
    have hmeta : ((assemble identity steps).metadata.bind fun m =>
        Fields.get? m.toFields name) = none := by
      by_cases hmem : name ∈ ReportMetadata.names
      · unfold assemble
        rw [metadata_foldl_of_none _ _ (hnone hmem)]
        rfl
      · exact Option.bind_eq_none_iff.mpr fun m _ => m.get?_toFields_of_notMem hmem
    rw [get?_toFields, hmeta, hidentity, if_neg (fun hmark => hfile hmark.2),
      if_neg (fun hmark => hinsert hmark.2), if_neg hsheets]
    rfl

/-- **Layers of a document.**  After any steps, the document is written as one object in which no
name is there twice and each field has the value of its layer: a mark, the sheets, the last
metadata, or the listing.  At any time a document has the titles of the sheets added so far. -/
theorem assemble_layers {identity : ReportIdentity} (h : Fields.Ordered identity)
    (steps : List Step) :
    (∃ fields, (assemble identity steps).toJson = .object fields ∧
      IsLayered identity steps fields) ∧
    ∀ front back, steps = front ++ back → ∀ title,
      ((assemble identity front).hasTitle title = true ↔
        ∃ sheet, .add sheet ∈ front ∧ sheet.titleFa = some title) := by
  refine ⟨⟨_, rfl, isLayered_toFields h steps⟩, ?_⟩
  intro front back _ title
  unfold hasTitle
  rw [List.any_eq_true]
  simp only [mem_sheets_assemble_iff, beq_iff_eq]

/-- A listing under names of the other layers. -/
def collidingListing : ReportIdentity :=
  [("kind", .string "listed"), ("no_file", .string "listed"), ("sheets", .null),
    ("to_insert", .bool false), ("trace_no", .string "77")]

/-- Metadata of which the English title only is known. -/
def titledMetadata (title : String) : ReportMetadata :=
  ⟨none, some (.string title), none, none, none, none, none, none, [], []⟩

/-- Metadata set twice, with a sheet and a mark in between. -/
theorem assemble_layers_colliding : Fields.Ordered collidingListing ∧
    ∃ fields, (assemble collidingListing [.describe (titledMetadata "A"),
        .add ⟨none, some "Notes", none, [], false⟩, .markInsertOnly,
        .describe (titledMetadata "B")]).toJson = .object fields ∧
      (fields.map Prod.fst).Nodup ∧
      Fields.get? fields "title_En" = some (.string "B") ∧
      Fields.get? fields "kind" = some .null ∧
      Fields.get? fields "to_insert" = some (.bool true) ∧
      Fields.get? fields "no_file" = some (.string "listed") ∧
      Fields.get? fields "trace_no" = some (.string "77") := by
  have hordered : Fields.Ordered collidingListing := by
    unfold Fields.Ordered
    decide
  obtain ⟨⟨fields, hjson, hlayered⟩, -⟩ := assemble_layers hordered
    [.describe (titledMetadata "A"), .add ⟨none, some "Notes", none, [], false⟩, .markInsertOnly,
      .describe (titledMetadata "B")]
  have hlast : ∀ f ∈ (titledMetadata "B").described, Fields.get? fields f.1 = some f.2 :=
    hlayered.described [_, _, _] _ [] rfl fun _ => List.not_mem_nil
  refine ⟨hordered, fields, hjson, hlayered.names, ?_, ?_, hlayered.marked.1 (by simp), ?_, ?_⟩
  · exact hlast ("title_En", .string "B") (by simp [ReportMetadata.described, titledMetadata])
  · exact hlast ("kind", .null) (by simp [ReportMetadata.described, titledMetadata])
  · exact hlayered.unmarked.2 (by simp)
  · exact hlayered.kept "trace_no" (by decide) fun hname => absurd hname (by decide)

/-! ### Documents of reports -/

/-- A document comes about from a listing in steps. -/
def IsAssembled (identity : ReportIdentity) (doc : ReportDocument) : Prop :=
  ∃ steps, doc = assemble identity steps

section reports
variable {identity : ReportIdentity} {doc : ReportDocument} {rules : Rules} {e : Extraction}

theorem isAssembled_ofIdentity (identity : ReportIdentity) :
    IsAssembled identity (ofIdentity identity) :=
  ⟨[], rfl⟩

theorem IsAssembled.more (h : IsAssembled identity doc) (steps : List Step) :
    IsAssembled identity (steps.foldl Step.apply doc) := by
  obtain ⟨before, rfl⟩ := h
  exact ⟨before ++ steps, List.foldl_append.symm⟩

theorem foldl_add (doc : ReportDocument) (sheets : List Sheet) :
    (sheets.map Step.add).foldl Step.apply doc = { doc with sheets := doc.sheets ++ sheets } := by
  induction sheets generalizing doc with
  | nil => simp
  | cons sheet sheets ih =>
      rw [List.map_cons, List.foldl_cons, ih]
      simp [Step.apply, addSheet]

theorem IsAssembled.addSheets (h : IsAssembled identity doc) (sheets : List Sheet) :
    IsAssembled identity { doc with sheets := doc.sheets ++ sheets } :=
  foldl_add doc sheets ▸ h.more _

theorem IsAssembled.addPage (h : IsAssembled identity e.document) (page : PageResult) :
    IsAssembled identity (e.addPage page).document := by
  cases hmetadata : page.metadata with
  | none =>
      have hpage := h.addSheets page.sheets
      simpa [Extraction.addPage, hmetadata] using hpage
  | some m =>
      have hpage := (h.more [.describe m]).addSheets page.sheets
      simpa [Extraction.addPage, hmetadata, Step.apply, withMetadata] using hpage

theorem IsAssembled.addPages (h : IsAssembled identity e.document) (pages : List String) :
    (Extraction.addPages rules e pages).elim (fun e => IsAssembled identity e.document)
      fun e => IsAssembled identity e.document := by
  induction pages generalizing e with
  | nil => exact h
  | cons html pages ih =>
      have hpage : IsAssembled identity (e.addPage (.ofHtml rules html)).document := h.addPage _
      simp only [Extraction.addPages]
      split
      · exact hpage.more [.markInsertOnly]
      · exact ih hpage

theorem IsAssembled.addSection (h : IsAssembled identity e.document) (s : Section) :
    IsAssembled identity (Extraction.addSection rules e s).document := by
  cases hknown : e.document.hasTitle s.title with
  | true => rwa [Extraction.addSection_of_known hknown]
  | false =>
      obtain ⟨sheet, stats, hs⟩ := s.exists_adds rules
      rw [Extraction.addSection_of_adds hknown hs]
      exact h.addSheets sheet.toList

theorem isAssembled_ofReport (rules : Rules) (identity : ReportIdentity) (pages : List String)
    (secondary : Option String) (count : Nat) :
    IsAssembled identity (Extraction.ofReport rules identity pages secondary count).document := by
  have hpages : (Extraction.addPages rules (.ofIdentity identity) pages).elim
      (fun e => IsAssembled identity e.document) fun e => IsAssembled identity e.document :=
    IsAssembled.addPages (isAssembled_ofIdentity identity) pages
  rw [Extraction.ofReport_eq]
  cases hadded : Extraction.addPages rules (.ofIdentity identity) pages with
  | inl ended =>
      rw [hadded] at hpages
      exact hpages
  | inr e =>
      rw [hadded] at hpages
      have he : IsAssembled identity e.document := hpages
      dsimp only
      cases secondary with
      | none =>
          split
          · exact he.more [.markNoFile]
          · exact he
      | some html =>
          have hall : IsAssembled identity (e.addSecondary rules html).document :=
            List.foldlRecOn (motive := fun e : Extraction => IsAssembled identity e.document) _ _ he
              fun _ hsofar s _ => hsofar.addSection s
          split
          · exact hall.more [.markNoFile]
          · exact hall

/-- The document of every report is layered. -/
theorem ofReport_layered (h : Fields.Ordered identity) (rules : Rules) (pages : List String)
    (secondary : Option String) (count : Nat) :
    ∃ steps, (Extraction.ofReport rules identity pages secondary count).document =
        assemble identity steps ∧
      IsLayered identity steps
        (Extraction.ofReport rules identity pages secondary count).document.toFields := by
  obtain ⟨steps, hsteps⟩ := isAssembled_ofReport rules identity pages secondary count
  exact ⟨steps, hsteps, hsteps ▸ isLayered_toFields h steps⟩

/-- A report is marked to be without files if no page of it was found. -/
theorem noFile_ofReport_nil (rules : Rules) (identity : ReportIdentity)
    (secondary : Option String) :
    (Extraction.ofReport rules identity [] secondary 0).document.noFile = true :=
  rfl

theorem noFile_addPages (rules : Rules) (e : Extraction) (pages : List String) :
    (Extraction.addPages rules e pages).elim
      (fun added => added.document.noFile = e.document.noFile)
      fun added => added.document.noFile = e.document.noFile := by
  induction pages generalizing e with
  | nil => rfl
  | cons html pages ih =>
      simp only [Extraction.addPages]
      split
      · rfl
      · exact ih (e.addPage (.ofHtml rules html))

theorem noFile_addSection (e : Extraction) (s : Section) :
    (Extraction.addSection rules e s).document.noFile = e.document.noFile := by
  cases hknown : e.document.hasTitle s.title with
  | true => rw [Extraction.addSection_of_known hknown]
  | false =>
      obtain ⟨sheet, stats, hs⟩ := s.exists_adds rules
      rw [Extraction.addSection_of_adds hknown hs]
      rfl

/-- Nothing else sets the mark. -/
theorem noFile_ofReport_of_ne {count : Nat} (h : count ≠ 0) (rules : Rules)
    (identity : ReportIdentity) (pages : List String) (secondary : Option String) :
    (Extraction.ofReport rules identity pages secondary count).document.noFile = false := by
  have hpages := noFile_addPages rules (.ofIdentity identity) pages
  rw [Extraction.ofReport_eq]
  cases hadded : Extraction.addPages rules (.ofIdentity identity) pages with
  | inl ended =>
      rw [hadded] at hpages
      exact hpages
  | inr e =>
      rw [hadded] at hpages
      simp only [if_neg h]
      cases secondary with
      | none => exact hpages
      | some html =>
          exact List.foldlRecOn (motive := fun e : Extraction => e.document.noFile = false) _ _
            hpages fun e he s _ => (noFile_addSection e s).trans he

end reports

end ReportDocument

end StatementTables
