import Mathlib.Data.List.Forall2
import Mathlib.Data.List.ReduceOption
import StatementTables.Pattern.Basic
import StatementTables.Proofs.Text.Trimming
import StatementTables.Report.Source

/-! # What the English title of a report says

The parts of a title that a hyphen ends, and the digits after a `V`, are what two searches find.  A
search goes through a text from the left and goes on behind what it has found (`Search`).  The one
for title information looks for a stretch without hyphens from one edge of a word to another, then
white space and a hyphen (`InfoAt`).  The hyphen ends the piece of the title that the stretch is in,
and the edge before it is the end of the piece's last word, so at each place there is one stretch
at most, the rest of the piece without the white space at its end (`InfoAt.eq_trimEnd`): how greedy
the search is makes no difference (`Search.unique`).  From the left, the first edge in a piece is
the start of its first word, and if the search finds nothing there, it finds nothing in the piece
(`search_piece`). -/

namespace StatementTables

open Text

/-! ### Searching -/

/-- What a search finds in a text, from the place between what is before it and the rest.  `At` says
that there is something at a place, and what is left after it; nothing is where a text ends. -/
inductive Search (At : (before rest found after : List Char) → Prop) :
    (before rest : List Char) → List (List Char) → Prop
  | done {before : List Char} : Search At before [] []
  | pass {before rest : List Char} {c : Char} {found : List (List Char)} :
      (∀ here after, ¬ At before (c :: rest) here after) → Search At (before ++ [c]) rest found →
        Search At before (c :: rest) found
  | find {before rest part here after : List Char} {found : List (List Char)} :
      At before rest here after → rest = part ++ after → Search At (before ++ part) after found →
        Search At before rest (here :: found)

namespace Search

variable {At : List Char → List Char → List Char → List Char → Prop} {before rest : List Char}
  {found others : List (List Char)}

/-- There is one thing at a place at most, and none at the end of a text. -/
structure Settled (At : List Char → List Char → List Char → List Char → Prop) : Prop where
  ended : ∀ before here after, ¬ At before [] here after
  unique : ∀ before rest here after here' after', At before rest here after →
    At before rest here' after' → here = here' ∧ after = after'

theorem unique (hAt : Settled At) (h : Search At before rest found)
    (k : Search At before rest others) : found = others := by
  induction h generalizing others with
  | done =>
      cases k with
      | done => rfl
      | find hat _ _ => exact absurd hat (hAt.ended _ _ _)
  | pass hnone _ ih =>
      cases k with
      | pass _ hrest => exact ih hrest
      | find hat _ _ => exact absurd hat (hnone _ _)
  | find hat hsplit _ ih =>
      cases k with
      | done => exact absurd hat (hAt.ended _ _ _)
      | pass hnone _ => exact absurd hat (hnone _ _)
      | find hat' hsplit' hrest =>
          obtain ⟨rfl, rfl⟩ := hAt.unique _ _ _ _ _ _ hat hat'
          cases List.append_cancel_right (hsplit.symm.trans hsplit')
          rw [ih hrest]

theorem passed {c : Char} (h : Search At before (c :: rest) found)
    (hnone : ∀ here after, ¬ At before (c :: rest) here after) :
    Search At (before ++ [c]) rest found := by
  cases h with
  | pass _ hrest => exact hrest
  | find hat _ _ => exact absurd hat (hnone _ _)

/-- Nothing is found in a stretch without anything at its places. -/
theorem pass_append {stretch : List Char}
    (hnone : ∀ front c back, stretch = front ++ c :: back →
      ∀ here after, ¬ At (before ++ front) (c :: back ++ rest) here after)
    (h : Search At (before ++ stretch) rest found) : Search At before (stretch ++ rest) found := by
  induction stretch generalizing before with
  | nil => rwa [List.append_nil] at h
  | cons c stretch ih =>
      refine .pass (fun here after hat => ?_) (ih (fun front d back hsplit here after hat => ?_) ?_)
      · refine hnone [] c stretch rfl here after ?_
        rwa [List.append_nil]
      · refine hnone (c :: front) d back (by rw [hsplit, List.cons_append]) here after ?_
        rwa [List.append_assoc, List.singleton_append] at hat
      · rwa [List.append_assoc, List.singleton_append]

end Search

/-! ### Title information -/

namespace ReportMetadata

variable {before piece more here after : List Char}

/-- Whether a word starts or ends between two characters. -/
def isEdge (before after : Option Char) : Bool :=
  Pattern.Condition.holds (.edge .boundary .word) before after

theorem isEdge_eq (before after : Option Char) :
    isEdge before after = (before.any isWordChar != after.any isWordChar) := by
  simp [isEdge, Pattern.Condition.holds, Pattern.WordEdge.holds, Pattern.CharSet.contains]

/-- At a place of a title there is title information: a stretch without hyphens from one edge of a
word to another, then white space and a hyphen. -/
structure InfoAt (before rest here after : List Char) : Prop where
  nonempty : here ≠ []
  noHyphen : '-' ∉ here
  opens : isEdge before.getLast? here.head? = true
  closes : ∃ gap, Blank gap ∧ rest = here ++ gap ++ '-' :: after ∧
    isEdge here.getLast? (gap ++ '-' :: after).head? = true

/-- The last character of a list that is no white space. -/
def lastInk? (cs : List Char) : Option Char :=
  cs.reverse.find? fun c => !isSpace c

/-- What a piece of a title tells: if its last character that is no white space is a word character,
what is in it from the first word character through that last one, and else nothing. -/
inductive Tells (piece : List Char) : Option (List Char) → Prop
  | nothing : (lastInk? piece).any isWordChar = false → Tells piece none
  | info {front info gap : List Char} : piece = front ++ info ++ gap →
      (∀ c ∈ front, isWordChar c = false) → Blank gap → info.head?.any isWordChar = true →
        info.getLast?.any isWordChar = true → Tells piece (some info)

theorem getLast?_trimEnd (cs : List Char) : (trimEnd cs).getLast? = lastInk? cs := by
  rw [trimEnd, List.getLast?_reverse, lastInk?, List.find?_eq_head?_dropWhile_not]
  simp

theorem lastInk?_append (front back : List Char) :
    lastInk? (front ++ back) = (lastInk? back).or (lastInk? front) := by
  rw [lastInk?, List.reverse_append, List.find?_append]
  rfl

theorem notMem_hyphen_of_blank {gap : List Char} (h : Blank gap) : '-' ∉ gap := fun hmem => by
  cases h '-' hmem

/-- No word goes on after white space or a hyphen. -/
theorem head?_gap_hyphen {gap : List Char} (h : Blank gap) (after : List Char) :
    (gap ++ '-' :: after).head?.any isWordChar = false := by
  cases gap with
  | nil => rfl
  | cons c gap =>
      rw [List.cons_append, List.head?_cons, Option.any_some, ← Bool.not_eq_true]
      intro hword
      have hspace := h c List.mem_cons_self
      rw [isSpace_of_isWordChar hword] at hspace
      cases hspace

theorem getLast?_append_front {front : List Char} (hbefore : before.getLast?.any isWordChar = false)
    (hfront : ∀ c ∈ front, isWordChar c = false) :
    (before ++ front).getLast?.any isWordChar = false := by
  rw [List.getLast?_append]
  cases hlast : front.getLast? with
  | none => exact hbefore
  | some c => exact hfront c (List.mem_of_getLast? hlast)

theorem eq_of_append_hyphen {a b x y : List Char} (ha : '-' ∉ a) (hb : '-' ∉ b)
    (h : a ++ '-' :: x = b ++ '-' :: y) : a = b ∧ x = y := by
  have hsplit := congrArg (List.splitOn '-') h
  rw [List.splitOn_append_cons_self_of_not_mem ha, List.splitOn_append_cons_self_of_not_mem hb]
    at hsplit
  obtain rfl := (List.cons.inj hsplit).1
  exact ⟨rfl, (List.cons.inj (List.append_cancel_left h)).2⟩

theorem InfoAt.head?_eq {rest : List Char} (h : InfoAt before rest here after) :
    here.head? = rest.head? := by
  obtain ⟨gap, -, rfl, -⟩ := h.closes
  rw [List.append_assoc, List.head?_append_of_ne_nil _ h.nonempty]

/-- What is there at a place is the rest of the piece without white space at its end, and it ends
with a word character. -/
theorem InfoAt.eq_trimEnd (h : InfoAt before (piece ++ '-' :: more) here after)
    (hpiece : '-' ∉ piece) :
    here = trimEnd piece ∧ after = more ∧ (lastInk? piece).any isWordChar = true := by
  obtain ⟨gap, hgap, hrest, hcloses⟩ := h.closes
  have hfront : '-' ∉ here ++ gap :=
    fun hmem => (List.mem_append.mp hmem).elim h.noHyphen (notMem_hyphen_of_blank hgap)
  obtain ⟨rfl, rfl⟩ := eq_of_append_hyphen hpiece hfront hrest
  have hlast : here.getLast?.any isWordChar = true := by
    rw [isEdge_eq, head?_gap_hyphen hgap] at hcloses
    simpa using hcloses
  have hend : trimEnd here = here := by
    obtain ⟨c, hc, hword⟩ := (Option.any_eq_true _ _).mp hlast
    obtain ⟨front, rfl⟩ := List.getLast?_eq_some_iff.mp hc
    rw [trimEnd_append_cons (isSpace_of_isWordChar hword)]
    rfl
  rw [← getLast?_trimEnd, trimEnd_append_blank hgap, hend]
  exact ⟨rfl, rfl, hlast⟩

theorem settled_infoAt : Search.Settled InfoAt where
  ended := by
    rintro before here after h
    obtain ⟨gap, -, hrest, -⟩ := h.closes
    simp at hrest
  unique := by
    rintro before rest here after here' after' h h'
    obtain ⟨gap, hgap, rfl, -⟩ := h.closes
    have hfront : '-' ∉ here ++ gap :=
      fun hmem => (List.mem_append.mp hmem).elim h.noHyphen (notMem_hyphen_of_blank hgap)
    rw [(h.eq_trimEnd hfront).1, (h'.eq_trimEnd hfront).1]
    exact ⟨rfl, (h'.eq_trimEnd hfront).2.1.symm⟩

/-- Without a hyphen ahead there is nothing. -/
theorem search_of_notMem {rest : List Char} (h : '-' ∉ rest) (before : List Char) :
    Search InfoAt before rest [] := by
  induction rest generalizing before with
  | nil => exact .done
  | cons c rest ih =>
      refine .pass (fun here after hat => ?_) (ih (fun hmem => h (List.mem_cons_of_mem c hmem)) _)
      obtain ⟨gap, -, hrest, -⟩ := hat.closes
      exact h (hrest ▸ by simp)

/-- In a piece that starts after no word character the search finds what the piece tells. -/
theorem search_piece {told : Option (List Char)} {found : List (List Char)} (hpiece : '-' ∉ piece)
    (hbefore : before.getLast?.any isWordChar = false) (htold : Tells piece told)
    (h : Search InfoAt (before ++ piece ++ ['-']) more found) :
    Search InfoAt before (piece ++ '-' :: more) (told.toList ++ found) := by
  cases htold with
  | nothing hlast =>
      refine Search.pass_append (fun front c back hsplit here after hat => ?_)
        (.pass (fun here after hat => ?_) h)
      · -- the end of the piece is the same from each of its places
        rw [hsplit, List.mem_append, not_or] at hpiece
        have hword := (hat.eq_trimEnd hpiece.2).2.2
        rw [hsplit, lastInk?_append] at hlast
        obtain ⟨d, hd, hdword⟩ := (Option.any_eq_true _ _).mp hword
        rw [hd, Option.some_or, Option.any_some, hdword] at hlast
        cases hlast
      · have hempty : InfoAt (before ++ piece) ([] ++ '-' :: more) here after := hat
        cases (hempty.eq_trimEnd List.not_mem_nil).2.2
  | @info front info gap hparts hfront hgap hhead hlast =>
      subst hparts
      rw [List.append_assoc, List.append_assoc]
      have hinfo : InfoAt (before ++ front) (info ++ (gap ++ '-' :: more)) info more := by
        refine ⟨?_, ?_, ?_, gap, hgap, ?_, ?_⟩
        · rintro rfl
          cases hhead
        · exact fun hmem => hpiece (by simp [hmem])
        · rw [isEdge_eq, getLast?_append_front hbefore hfront, hhead]
          rfl
        · rw [List.append_assoc]
        · rw [isEdge_eq, head?_gap_hyphen hgap, hlast]
          rfl
      have hsplit : info ++ (gap ++ '-' :: more) = (info ++ (gap ++ ['-'])) ++ more := by simp
      refine Search.pass_append (fun f c b hsplit here after hat => ?_) (.find hinfo hsplit ?_)
      · -- there is no edge between characters that are no word characters
        have hword : ∀ d ∈ f ++ c :: b, isWordChar d = false := hsplit ▸ hfront
        have hf : ∀ d ∈ f, isWordChar d = false := fun d hd => hword d (by simp [hd])
        have hopens := hat.opens
        rw [hat.head?_eq, isEdge_eq, getLast?_append_front hbefore hf] at hopens
        simp [hword c (by simp)] at hopens
      · simpa using h

/-! ### The pieces of a title -/

theorem tells_information? (piece : List Char) : Tells piece (information? piece) := by
  unfold information?
  dsimp only
  split
  · rename_i hlast
    have hsplit : (trimEnd piece).takeWhile (fun c => !isWordChar c) ++
        (trimEnd piece).dropWhile (fun c => !isWordChar c) = trimEnd piece :=
      List.takeWhile_append_dropWhile
    have hfront : ∀ c ∈ (trimEnd piece).takeWhile (fun c => !isWordChar c),
        isWordChar c = false := fun c hc => by simpa using List.mem_takeWhile_imp hc
    have hgap : Blank (piece.rtakeWhile isSpace) := fun c hc => List.mem_rtakeWhile_imp hc
    -- the last character is a word character, so something is left behind the front
    have hne : (trimEnd piece).dropWhile (fun c => !isWordChar c) ≠ [] := by
      intro hnil
      obtain ⟨c, hc, hword⟩ := (Option.any_eq_true _ _).mp hlast
      have hother := List.dropWhile_eq_nil_iff.mp hnil c (List.mem_of_getLast? hc)
      simp [hword] at hother
    refine .info ?_ hfront hgap ?_ ?_
    · rw [hsplit, trimEnd_eq_rdropWhile, List.rdropWhile_append_rtakeWhile]
    · have hhead := List.head?_dropWhile_not (fun c => !isWordChar c) (trimEnd piece)
      rw [List.head?_eq_some_head hne] at hhead ⊢
      simpa using hhead
    · rwa [← hsplit, List.getLast?_append_of_ne_nil _ hne] at hlast
  · rename_i hlast
    exact .nothing (by rwa [← getLast?_trimEnd, ← Bool.not_eq_true])

/-- A title is a piece, or a piece, a hyphen and a title. -/
theorem pieces_induction {P : List Char → Prop} (plain : ∀ piece, '-' ∉ piece → P piece)
    (cut : ∀ piece more, '-' ∉ piece → P more → P (piece ++ '-' :: more)) (title : List Char) :
    P title := by
  obtain ⟨n, hn⟩ : ∃ n, title.length = n := ⟨_, rfl⟩
  induction n using Nat.strongRecOn generalizing title with
  | ind n ih =>
      by_cases hmem : '-' ∈ title
      · obtain ⟨piece, more, rfl, hpiece⟩ := List.eq_append_cons_of_mem hmem
        refine cut piece more hpiece (ih more.length ?_ more rfl)
        rw [← hn, List.length_append, List.length_cons]
        omega
      · exact plain title hmem

/-- The pieces of a title that a hyphen ends. -/
def endedPieces (title : List Char) : List (List Char) :=
  (title.splitOn '-').dropLast

theorem endedPieces_plain (h : '-' ∉ piece) : endedPieces piece = [] := by
  rw [endedPieces, List.splitOn_eq_singleton h]
  rfl

theorem endedPieces_cut (h : '-' ∉ piece) (more : List Char) :
    endedPieces (piece ++ '-' :: more) = piece :: endedPieces more := by
  rw [endedPieces, List.splitOn_append_cons_self_of_not_mem h,
    List.dropLast_cons_of_ne_nil (List.splitOn_ne_nil _ _)]
  rfl

theorem partsBeforeHyphen_plain (h : '-' ∉ piece) (part : List Char) :
    partsBeforeHyphen part piece = [] := by
  induction piece generalizing part with
  | nil => rfl
  | cons c piece ih =>
      rw [List.mem_cons, not_or] at h
      rw [partsBeforeHyphen, if_neg (Ne.symm h.1), ih h.2]

theorem partsBeforeHyphen_cut (h : '-' ∉ piece) (part more : List Char) :
    partsBeforeHyphen part (piece ++ '-' :: more) =
      (part ++ piece) :: partsBeforeHyphen [] more := by
  induction piece generalizing part with
  | nil => rw [List.nil_append, partsBeforeHyphen, if_pos rfl, List.append_nil]
  | cons c piece ih =>
      rw [List.mem_cons, not_or] at h
      rw [List.cons_append, partsBeforeHyphen, if_neg (Ne.symm h.1), ih h.2, List.append_assoc]
      rfl

theorem partsBeforeHyphen_eq (title : List Char) :
    partsBeforeHyphen [] title = endedPieces title := by
  induction title using pieces_induction with
  | plain piece h => rw [partsBeforeHyphen_plain h, endedPieces_plain h]
  | cut piece more h ih => rw [partsBeforeHyphen_cut h, endedPieces_cut h, ih, List.nil_append]

/-- From a place after no word character the search finds what the pieces ahead tell. -/
theorem search_title (title : List Char) (hbefore : before.getLast?.any isWordChar = false) :
    Search InfoAt before title ((endedPieces title).filterMap information?) := by
  induction title using pieces_induction generalizing before with
  | plain piece h =>
      rw [endedPieces_plain h]
      exact search_of_notMem h before
  | cut piece more h ih =>
      have hrest : Search InfoAt (before ++ piece ++ ['-']) more
          ((endedPieces more).filterMap information?) := ih (by simp; rfl)
      rw [endedPieces_cut h, List.filterMap_cons]
      have hfound := search_piece h hbefore (tells_information? piece) hrest
      cases htold : information? piece with
      | none => rwa [htold] at hfound
      | some info => rwa [htold] at hfound

/-! ### Versions -/

/-- At a place of a title there is a version: a `V` and a decimal digit. -/
def VersionAt (_before rest here after : List Char) : Prop :=
  ∃ c, isDecimalDigit c = true ∧ rest = 'V' :: c :: after ∧ here = [c]

theorem settled_versionAt : Search.Settled VersionAt where
  ended := by
    rintro before here after ⟨c, -, hrest, -⟩
    cases hrest
  unique := by
    rintro before rest here after here' after' ⟨c, -, rfl, rfl⟩ ⟨c', -, hrest, rfl⟩
    cases hrest
    exact ⟨rfl, rfl⟩

/-- The version that a first character and what follows it make. -/
def firstVersion? (c : Char) (cs : List Char) : Option Char :=
  if c = 'V' then cs.head?.filter isDecimalDigit else none

theorem versions_cons (c : Char) (cs : List Char) :
    versions (c :: cs) = (firstVersion? c cs).toList ++ versions cs := by
  unfold firstVersion?
  split
  · rename_i hV
    subst hV
    cases cs with
    | nil => rfl
    | cons d cs =>
        rw [versions, List.head?_cons, Option.filter_some]
        split <;> rfl
  · rename_i hV
    rw [versions]
    · rfl
    · rintro _ _ rfl
      exact absurd rfl hV

theorem search_versions (title before : List Char) :
    Search VersionAt before title ((versions title).map fun c => [c]) := by
  induction title generalizing before with
  | nil => exact .done
  | cons c cs ih =>
      rw [versions_cons]
      cases hfirst : firstVersion? c cs with
      | none =>
          refine .pass ?_ (ih _)
          rintro here after ⟨d, hd, hrest, -⟩
          cases hrest
          simp [firstVersion?, Option.filter_some, hd] at hfirst
      | some d =>
          rw [firstVersion?, Option.ite_none_right_eq_some, Option.filter_eq_some_iff] at hfirst
          obtain ⟨rfl, hhead, hd⟩ := hfirst
          obtain ⟨cs, rfl⟩ := List.head?_eq_some_iff.mp hhead
          have hat : VersionAt before ('V' :: d :: cs) [d] cs := ⟨d, hd, rfl, rfl⟩
          refine .find hat (show 'V' :: d :: cs = ['V', d] ++ cs from rfl) ?_
          -- the digit is no `V`, so what is found from it on is found behind it
          have hrest := (ih (before ++ ['V'])).passed fun here after hat => by
            obtain ⟨e, -, hV, -⟩ := hat
            cases hV
            cases hd
          rwa [List.append_assoc] at hrest

/-- The decimal digits right after a `V`. -/
def digitsAfterV (title : List Char) : List Char :=
  ((title.zip title.tail).filter fun pair => pair.1 = 'V' && isDecimalDigit pair.2).map (·.2)

theorem versions_eq (title : List Char) : versions title = digitsAfterV title := by
  induction title with
  | nil => rfl
  | cons c cs ih =>
      rw [versions_cons, ih]
      cases cs with
      | nil => simp [digitsAfterV, firstVersion?]
      | cons d cs =>
        by_cases hV : c = 'V'
        · cases hd : isDecimalDigit d <;>
            simp [digitsAfterV, firstVersion?, Option.filter_some, hV, hd]
        · simp [digitsAfterV, firstVersion?, hV]

end ReportMetadata

open ReportMetadata

/-- **Title information and versions.**  A report's title information is, piece by piece for those
pieces of its English title that a hyphen ends, what the piece tells; it is also what the search for
stretches before hyphens finds.  Its versions are the decimal digits right after a `V`, which is
what the search for them finds. -/
theorem metadata_of_title (report : SourceReport) :
    let title := report.title.toList
    (∃ told, List.Forall₂ Tells (title.splitOn '-').dropLast told ∧
      report.metadata.titleInfo = told.reduceOption.map String.ofList ∧
      ∀ found, Search InfoAt [] title found ↔ found = told.reduceOption) ∧
    report.metadata.version = (((title.zip title.tail).filter fun pair =>
      pair.1 = 'V' && isDecimalDigit pair.2).map fun pair => String.ofList [pair.2]) ∧
    ∀ found, Search VersionAt [] title found ↔
      found.map String.ofList = report.metadata.version := by
  intro title
  have hinfo : Search InfoAt [] title ((endedPieces title).filterMap information?) :=
    search_title title rfl
  have hversions : Search VersionAt [] title ((versions title).map fun c => [c]) :=
    search_versions title []
  have htold : ((endedPieces title).map information?).reduceOption =
      (endedPieces title).filterMap information? := by
    rw [List.reduceOption, List.filterMap_map, Function.id_comp]
  have hwritten : report.metadata.version =
      ((versions title).map fun c => [c]).map String.ofList := by
    rw [List.map_map]
    rfl
  refine ⟨⟨(endedPieces title).map information?, ?_, ?_, fun found => ?_⟩, ?_, fun found => ?_⟩
  · rw [List.forall₂_map_right_iff, ← endedPieces, List.forall₂_same]
    exact fun piece _ => tells_information? piece
  · rw [htold, ← partsBeforeHyphen_eq]
    rfl
  · rw [htold]
    exact ⟨fun h => h.unique settled_infoAt hinfo, fun h => h ▸ hinfo⟩
  · rw [hwritten, versions_eq, digitsAfterV, List.map_map, List.map_map]
    rfl
  · rw [hwritten, (List.map_injective_iff.mpr fun _ _ => String.ofList_injective).eq_iff]
    exact ⟨fun h => h.unique settled_versionAt hversions, fun h => h ▸ hversions⟩

/-- The piece that ends in a parenthesis tells nothing, and the last piece is not ended. -/
example : titleInfoOf "Q1 (net) - «Sales» 2 -- V3" = ["Sales» 2"] := by decide +kernel

end StatementTables
