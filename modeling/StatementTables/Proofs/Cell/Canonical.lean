import StatementTables.Proofs.Except
import StatementTables.Proofs.Text.Unification
import StatementTables.Proofs.Cell.Negation

/-! # Texts that are read again

A text without a percent sign is `cleaned` before numbers in parentheses turn negative.  Its white
space is joined before marks and separators go, so that these can leave spaces beside each other,
and exactly where there is a `WideGap` they do (`hasPair_cleaned_iff`).

What was read has nothing left to unify or to drop (`unifyWord_of_mem_words_read`, `cleaned_read`):
reading it again only joins its words, and reading it once more changes nothing
(`normalizeScalar_text`). -/

namespace StatementTables.Scalar

open Text Decimal

variable {c : Char} {cs : List Char} {raw text : String}

/-! ### What is left of a text -/

/-- A text without a percent sign as it is read, but for parentheses. -/
def cleaned (raw : String) : List Char :=
  if hasDigit raw then trimChars (without ',' (unifyDigits raw).toList)
  else trimChars (halvePairs ' ' (blankPunctuation (unifyDigits raw).toList))

theorem hasDigit_unifyDigits_iff : hasDigit (unifyDigits text) = true ↔ hasDigit text = true := by
  constructor
  · intro h
    obtain ⟨c, hmem, hc⟩ := hasDigit_iff.mp h
    have hlocal := localDigit?_of_mem_unifyDigits hmem
    refine hasDigit_of_mem_unifyDigits hmem ?_
    simpa [isDigitGlyph, hlocal] using hc
  · intro h
    obtain ⟨c, hmem, hc⟩ := hasDigit_iff.mp h
    rw [hasDigit_iff]
    rcases mem_unifyDigits hmem (isSpace_of_isDigitGlyph hc) with hmem | hmem
    · exact ⟨c, hmem, hc⟩
    · exact ⟨unifyChar c, hmem, by simp [isDigitGlyph, isDigit_unifyChar hc]⟩

theorem toList_normalizeToken_unifyDigits (hpercent : '%' ∉ raw.toList) :
    (normalizeToken (unifyDigits raw)).toList = cleaned raw := by
  have hpercent' := percent_notMem_unifyDigits hpercent
  unfold cleaned
  split
  · rename_i hdigit
    rw [normalizeToken_digits hpercent' (hasDigit_unifyDigits_iff.mpr hdigit),
      String.toList_ofList]
  · rename_i hdigit
    have htrim : trimChars (unifyDigits raw).toList = (unifyDigits raw).toList :=
      trimChars_eq_self (singleSpaced_unifyDigits raw).front
        (singleSpaced_unifyDigits raw).back
    have hdigit' : ¬ hasDigitGlyph (unifyDigits raw).toList = true :=
      mt hasDigit_unifyDigits_iff.mp hdigit
    unfold normalizeToken
    rw [if_neg (by simpa using hpercent'), if_neg hdigit']
    split
    · rename_i hword
      have hkept : ∀ s ∈ notANumber,
          trimChars (halvePairs ' ' (blankPunctuation s.toList)) = s.toList := by decide
      exact (hkept _ (by simpa using hword)).symm
    · rw [htrim, String.toList_ofList]

theorem normalizeScalar_eq_parseNumeric_cleaned (hpercent : '%' ∉ raw.toList) :
    normalizeScalar raw = parseNumeric (.ofList (negateParenthesizedChars (cleaned raw))) := by
  unfold normalizeScalar negateParenthesized
  rw [toList_normalizeToken_unifyDigits hpercent]

/-! ### Gaps -/

/-- What is passed over between two characters that are kept leaves more than one space: two spaces,
with commas around them, in a text with a digit, and three spaces or marks in any other. -/
def WideGap (raw : String) : Prop :=
  if hasDigit raw then
    ∃ gap, Gap (fun c => isSpace c || c == ',') gap (unifyDigits raw).toList ∧ 2 ≤ gap.count ' '
  else
    ∃ gap, Gap (fun c => isSpace c || isAsciiPunctuation c) gap (unifyDigits raw).toList ∧
      3 ≤ gap.length

theorem hasPair_without_iff (h : SingleSpaced cs) :
    HasPair (trimChars (without ',' cs)) ↔
      ∃ gap, Gap (fun c => isSpace c || c == ',') gap cs ∧ 2 ≤ gap.count ' ' := by
  have hspaces : ∀ c ∈ without ',' cs, isSpace c = true → c = ' ' :=
    fun c hc => h.spaces c (List.mem_of_mem_filter hc)
  have hlength : ∀ gap, Gap (fun c => isSpace c || c == ',') gap cs →
      (without ',' gap).length = gap.count ' ' := by
    rintro gap ⟨hgap, front, a, b, back, rfl, -, -⟩
    rw [without, ← List.countP_eq_length_filter]
    refine List.countP_congr fun c hc => ?_
    by_cases hcomma : c = ','
    · simp [hcomma]
    · have hspace : isSpace c = true := by simpa [hcomma] using hgap c hc
      simp [h.spaces c (by simp [hc]) hspace]
  rw [hasPair_trimChars_iff hspaces]
  constructor
  · rintro ⟨gap, hgap, htwo⟩
    obtain ⟨g, hg, rfl⟩ := gap_without_iff.mp hgap
    exact ⟨g, hg, hlength g hg ▸ htwo⟩
  · rintro ⟨g, hg, htwo⟩
    exact ⟨_, gap_without_iff.mpr ⟨g, hg, rfl⟩, (hlength g hg).symm ▸ htwo⟩

theorem isSpace_blanked (c : Char) :
    isSpace (if isAsciiPunctuation c then ' ' else c) = (isSpace c || isAsciiPunctuation c) := by
  split
  · rename_i hmark
    rw [hmark, Bool.or_true]
    rfl
  · rename_i hmark
    rw [Bool.not_eq_true] at hmark
    rw [hmark, Bool.or_false]

theorem space_of_mem_blankPunctuation (h : SingleSpaced cs) :
    ∀ c ∈ blankPunctuation cs, isSpace c = true → c = ' ' := by
  intro c hc hspace
  obtain ⟨d, hd, rfl⟩ := List.mem_map.mp hc
  by_cases hmark : isAsciiPunctuation d = true
  · rw [if_pos hmark]
  · rw [if_neg hmark] at hspace ⊢
    exact h.spaces d hd hspace

theorem hasPair_blankPunctuation_iff (h : SingleSpaced cs) :
    HasPair (trimChars (halvePairs ' ' (blankPunctuation cs))) ↔
      ∃ gap, Gap (fun c => isSpace c || isAsciiPunctuation c) gap cs ∧ 3 ≤ gap.length := by
  have hspaces := space_of_mem_blankPunctuation h
  have hgaps : ∀ gap, Gap isSpace gap (halvePairs ' ' (blankPunctuation cs)) ↔
      ∃ g, Gap (fun c => isSpace c || isAsciiPunctuation c) g cs ∧
        halvePairs ' ' (blankPunctuation g) = gap := by
    intro gap
    rw [gap_halvePairs_iff rfl]
    simp only [blankPunctuation, gap_map_iff, isSpace_blanked]
    constructor
    · rintro ⟨-, ⟨g, hg, rfl⟩, rfl⟩
      exact ⟨g, hg, rfl⟩
    · rintro ⟨g, hg, rfl⟩
      exact ⟨_, ⟨g, hg, rfl⟩, rfl⟩
  have hlength : ∀ gap, Gap (fun c => isSpace c || isAsciiPunctuation c) gap cs →
      (halvePairs ' ' (blankPunctuation gap)).length = (gap.length + 1) / 2 := by
    rintro gap ⟨hgap, front, a, b, back, rfl, -, -⟩
    have hblank : ∀ c ∈ blankPunctuation gap, c = ' ' := by
      intro c hc
      refine hspaces c ?_ ?_
      · simp only [blankPunctuation, List.map_append, List.map_cons, List.mem_append,
          List.mem_cons] at hc ⊢
        exact .inr (.inr (.inl hc))
      · obtain ⟨d, hd, rfl⟩ := List.mem_map.mp hc
        rw [isSpace_blanked]
        exact hgap d hd
    rw [length_halvePairs_of_forall hblank, blankPunctuation, List.length_map]
  rw [hasPair_trimChars_iff fun c hc => hspaces c (mem_halvePairs_iff.mp hc)]
  constructor
  · rintro ⟨gap, hgap, htwo⟩
    obtain ⟨g, hg, rfl⟩ := (hgaps gap).mp hgap
    have hhalf := hlength g hg
    exact ⟨g, hg, by omega⟩
  · rintro ⟨g, hg, hthree⟩
    have hhalf := hlength g hg
    exact ⟨_, (hgaps _).mpr ⟨g, hg, rfl⟩, by omega⟩

theorem hasPair_cleaned_iff : HasPair (cleaned raw) ↔ WideGap raw := by
  have hspaced := singleSpaced_unifyDigits raw
  unfold cleaned WideGap
  split
  · exact hasPair_without_iff hspaced
  · exact hasPair_blankPunctuation_iff hspaced

/-! ### Reading again -/

theorem mem_cleaned (h : c ∈ cleaned raw) : c = ' ' ∨ c ∈ (unifyDigits raw).toList := by
  unfold cleaned at h
  split at h
  · exact .inr (List.mem_of_mem_filter ((trimChars_sublist _).subset h))
  · have hmem := mem_halvePairs_iff.mp ((trimChars_sublist _).subset h)
    obtain ⟨d, hd, heq⟩ := List.mem_map.mp hmem
    split at heq
    · exact .inl heq.symm
    · exact .inr (heq ▸ hd)

theorem unifyWord_of_forall_mem {word other : List Char} (h : ∀ c ∈ word, c = '-' ∨ c ∈ other)
    (hother : unifyWord other = other) : unifyWord word = word := by
  by_cases hdigit : hasDigitGlyph word = true
  · obtain ⟨d, hd, hglyph⟩ := List.any_eq_true.mp hdigit
    have hminus : d ≠ '-' := by
      rintro rfl
      cases hglyph
    have hdigit' : hasDigitGlyph other = true :=
      List.any_eq_true.mpr ⟨d, (h d hd).resolve_left hminus, hglyph⟩
    have hkept : other.map unifyChar = other.map id := by
      rw [List.map_id, ← unifyWord_of_digit hdigit', hother]
    rw [unifyWord_of_digit hdigit]
    refine (List.map_congr_left fun c hc => ?_).trans (List.map_id word)
    rcases h c hc with rfl | hc
    · rfl
    · exact List.map_inj_left.mp hkept c hc
  · exact unifyWord_of_no_digit hdigit

theorem isAsciiPunctuation_of_mem_cleaned (hdigit : ¬ hasDigit raw = true) (h : c ∈ cleaned raw) :
    isAsciiPunctuation c = false := by
  unfold cleaned at h
  rw [if_neg hdigit] at h
  obtain ⟨d, -, rfl⟩ := List.mem_map.mp (mem_halvePairs_iff.mp ((trimChars_sublist _).subset h))
  split
  · rfl
  · rename_i hmark
    simpa using hmark

section again
variable (ht : text.toList = negateParenthesizedChars (cleaned raw))
include ht

theorem mem_of_mem_read (h : c ∈ text.toList) :
    c = '-' ∨ c = ' ' ∨ c ∈ (unifyDigits raw).toList := by
  rw [ht] at h
  exact (mem_of_mem_negateParenthesizedChars h).imp_right mem_cleaned

theorem percent_notMem_read (hpercent : '%' ∉ raw.toList) : '%' ∉ text.toList := by
  intro hmem
  have hunified := (mem_of_mem_read ht hmem).resolve_left (by decide)
  exact percent_notMem_unifyDigits hpercent (hunified.resolve_left (by decide))

theorem hasDigit_read_iff : hasDigit text = true ↔ hasDigit raw = true := by
  constructor
  · intro h
    obtain ⟨c, hmem, hc⟩ := hasDigit_iff.mp h
    rcases mem_of_mem_read ht hmem with rfl | rfl | hmem
    · cases hc
    · cases hc
    · exact hasDigit_unifyDigits_iff.mp (hasDigit_iff.mpr ⟨c, hmem, hc⟩)
  · intro h
    obtain ⟨c, hmem, hc⟩ := hasDigit_iff.mp (hasDigit_unifyDigits_iff.mpr h)
    have hmarks : ∀ d ∈ [',', '(', ')'], isDigitGlyph d = false :=
      List.forall_iff_forall_mem.mp (by decide)
    have hmark : ∀ d ∈ [',', '(', ')'], c ≠ d := by
      rintro d hd rfl
      rw [hmarks c hd] at hc
      cases hc
    rw [hasDigit_iff, ht]
    refine ⟨c, mem_negateParenthesizedChars ?_ (hmark '(' (by simp)) (hmark ')' (by simp)), hc⟩
    unfold cleaned
    rw [if_pos h, mem_trimChars_iff (isSpace_of_isDigitGlyph hc)]
    exact List.mem_filter.mpr ⟨hmem, by simpa using hmark ',' (by simp)⟩

/-- Nothing is left to unify in the words of a text that was read. -/
theorem unifyWord_of_mem_words_read {word : List Char} (h : word ∈ words text.toList) :
    unifyWord word = word := by
  by_cases hdigit : hasDigit raw = true
  · have hcleaned : words (cleaned raw) =
        ((words (unifyDigits raw).toList).map (without ',')).filter fun w => !w.isEmpty := by
      unfold cleaned
      rw [if_pos hdigit, words_trimChars, words_without rfl]
    rw [ht] at h
    obtain ⟨other, hother, hwithin⟩ :=
      exists_of_mem_right (words_negateParenthesizedChars (cleaned raw)) word h
    rw [hcleaned] at hother
    obtain ⟨kept, hkept, rfl⟩ := List.mem_map.mp (List.mem_of_mem_filter hother)
    rw [words_unifyDigits] at hkept
    obtain ⟨before, -, rfl⟩ := List.mem_map.mp hkept
    refine unifyWord_of_forall_mem (fun c hc => ?_) (unifyWord_unifyWord before)
    exact (hwithin.chars c hc).imp_right fun hmem => List.mem_of_mem_filter hmem
  · refine unifyWord_of_no_digit fun hword => hdigit ((hasDigit_read_iff ht).mp ?_)
    obtain ⟨c, hc, hglyph⟩ := List.any_eq_true.mp hword
    exact hasDigit_iff.mpr ⟨c, (exists_word_iff (isSpace_of_isDigitGlyph hglyph)).mp ⟨word, h, hc⟩,
      hglyph⟩

theorem toList_unifyDigits_read : (unifyDigits text).toList = unwords (words text.toList) := by
  rw [toList_unifyDigits]
  refine congrArg unwords ((List.map_congr_left fun word hword => ?_).trans (List.map_id _))
  exact unifyWord_of_mem_words_read ht hword

/-- Reading again joins the words. -/
theorem cleaned_read : cleaned text = unwords (words text.toList) := by
  have hspaced : SingleSpaced (unwords (words text.toList)) :=
    singleSpaced_unwords fun word hword => isWord_of_mem_words hword
  have hmem : ∀ {c : Char}, isSpace c = false → c ∈ unwords (words text.toList) →
      c ∈ text.toList := fun hc h =>
    (exists_word_iff hc).mp ((mem_unwords_iff (ne_space_of_isSpace hc)).mp h)
  unfold cleaned
  rw [toList_unifyDigits_read ht]
  split
  · rename_i hdigit
    have hcomma : ',' ∉ unwords (words text.toList) := by
      intro h
      have hread := ht ▸ hmem rfl h
      have hcleaned := (mem_of_mem_negateParenthesizedChars hread).resolve_left (by decide)
      unfold cleaned at hcleaned
      rw [if_pos ((hasDigit_read_iff ht).mp hdigit)] at hcleaned
      exact notMem_without ',' _ ((trimChars_sublist _).subset hcleaned)
    rw [without_eq_self_iff.mpr hcomma, trimChars_eq_self hspaced.front hspaced.back]
  · rename_i hdigit
    have hraw := mt (hasDigit_read_iff ht).mpr hdigit
    have hkept : negateParenthesizedChars (cleaned raw) = cleaned raw := by
      refine negateParenthesizedChars_of_notMem fun h => ?_
      have hopening := isAsciiPunctuation_of_mem_cleaned hraw h
      cases hopening
    rw [hkept] at ht
    have hmarks : blankPunctuation (unwords (words text.toList)) =
        unwords (words text.toList) := by
      refine (List.map_congr_left fun c hc => ?_).trans (List.map_id _)
      by_cases hspace : isSpace c = true
      · rw [hspaced.spaces c hc hspace]
        rfl
      · have hread := ht ▸ hmem (by simpa using hspace) hc
        rw [isAsciiPunctuation_of_mem_cleaned hraw hread]
        rfl
    rw [hmarks, halvePairs_of_not_hasPair hspaced.apart,
      trimChars_eq_self hspaced.front hspaced.back]

end again

/-! ### Texts that are no number -/

theorem toList_eq_of_text {t : String} (hpercent : '%' ∉ raw.toList)
    (h : normalizeScalar raw = .text t) : t.toList = negateParenthesizedChars (cleaned raw) := by
  rw [normalizeScalar_eq_parseNumeric_cleaned hpercent] at h
  cases hread : Numeral.read? (trimChars (negateParenthesizedChars (cleaned raw))) with
  | none =>
      rw [parseNumeric_of_read?_eq_none (by rwa [String.toList_ofList])] at h
      cases h
      rw [String.toList_ofList]
  | some n =>
      rw [parseNumeric_of_read? (by rwa [String.toList_ofList])] at h
      cases h

/-- Words that are no number are none when they are joined. -/
theorem parseNumeric_unwords_words (h : Numeral.read? (trimChars text.toList) = none) :
    parseNumeric (.ofList (unwords (words text.toList))) =
      .text (.ofList (unwords (words text.toList))) := by
  have hspaced : SingleSpaced (unwords (words text.toList)) :=
    singleSpaced_unwords fun word hword => isWord_of_mem_words hword
  refine parseNumeric_of_read?_eq_none ?_
  rw [String.toList_ofList, trimChars_eq_self hspaced.front hspaced.back]
  cases hwords : words text.toList with
  | nil => rfl
  | cons word ws =>
      cases ws with
      | nil => rwa [unwords, ← trimChars_of_words_eq_singleton hwords]
      | cons next ws =>
          -- the space between two words is in no number
          refine Option.eq_none_iff_forall_ne_some.mpr fun n hn => ?_
          have hspace := isNumeralChar_of_read? hn ' ' (by simp [unwords])
          cases hspace

theorem normalizeScalar_read {t : String} (hpercent : '%' ∉ raw.toList)
    (h : normalizeScalar raw = .text t) :
    normalizeScalar t = .text (.ofList (unwords (words t.toList))) := by
  have ht := toList_eq_of_text hpercent h
  have hamount : ¬ HasAmount (unwords (words t.toList)) := by
    rw [hasAmount_unwords_words_iff, ht]
    exact not_hasAmount_negateParenthesizedChars _
  rw [normalizeScalar_eq_parseNumeric_cleaned (percent_notMem_read ht hpercent), cleaned_read ht,
    negateParenthesizedChars_eq_self hamount]
  refine parseNumeric_unwords_words (Option.eq_none_iff_forall_ne_some.mpr fun n hn => ?_)
  rw [normalizeScalar_eq_parseNumeric_cleaned hpercent, ← ht, String.ofList_toList,
    parseNumeric_of_read? hn] at h
  cases h

/-- **Texts that are read again.**  A text that is read from one without a percent sign has no white
space at its ends, and none inside but spaces.  It has two of these beside each other exactly if
there was a wide gap, and it is read as itself exactly if not: to read it again joins its words by
single spaces, and after that it stays. -/
theorem normalizeScalar_text {raw t : String} (hpercent : '%' ∉ raw.toList)
    (h : normalizeScalar raw = .text t) :
    (Stops isSpace t.toList ∧ Stops isSpace t.toList.reverse ∧
      ∀ c ∈ t.toList, isSpace c = true → c = ' ') ∧
    (HasPair t.toList ↔ WideGap raw) ∧
    (normalizeScalar t = .text t ↔ ¬ WideGap raw) ∧
    ∃ joined, joined.toList = unwords (words t.toList) ∧ normalizeScalar t = .text joined ∧
      normalizeScalar joined = .text joined := by
  have ht := toList_eq_of_text hpercent h
  have hspaces : ∀ c ∈ t.toList, isSpace c = true → c = ' ' := by
    intro c hc hspace
    rcases mem_of_mem_read ht hc with rfl | rfl | hc
    · cases hspace
    · rfl
    · exact (singleSpaced_unifyDigits raw).spaces c hc hspace
  have hends : Stops isSpace t.toList ∧ Stops isSpace t.toList.reverse := by
    have htrim : trimChars (cleaned raw) = cleaned raw := by
      unfold cleaned
      split <;> rw [trimChars_trimChars]
    rw [ht]
    exact ⟨stops_negateParenthesizedChars (htrim ▸ stops_trimChars _),
      stops_reverse_negateParenthesizedChars (htrim ▸ stops_reverse_trimChars _)⟩
  have hpair : HasPair t.toList ↔ WideGap raw := by
    rw [ht, hasPair_negateParenthesizedChars_iff, hasPair_cleaned_iff]
  have hread := normalizeScalar_read hpercent h
  refine ⟨⟨hends.1, hends.2, hspaces⟩, hpair, ?_, _, String.toList_ofList, hread, ?_⟩
  · rw [hread, CellValue.text.injEq, ← String.toList_inj, String.toList_ofList,
      unwords_words_eq_iff, ← hpair]
    exact ⟨SingleSpaced.apart, fun hapart => ⟨hspaces, hapart, hends.1, hends.2⟩⟩
  · have hagain := normalizeScalar_read (percent_notMem_read ht hpercent) hread
    rwa [String.toList_ofList, words_unwords fun word hword => isWord_of_mem_words hword] at hagain

/-- A text without parentheses that has a character of no number. -/
theorem normalizeScalar_of_cleaned_eq (hpercent : '%' ∉ raw.toList)
    (hcleaned : cleaned raw = text.toList) (hopening : '(' ∉ text.toList) (hc : c ∈ text.toList)
    (hspace : isSpace c = false) (hnumeral : isNumeralChar c = false) :
    normalizeScalar raw = .text text := by
  rw [normalizeScalar_eq_parseNumeric_cleaned hpercent, hcleaned,
    negateParenthesizedChars_of_notMem hopening, String.ofList_toList]
  exact parseNumeric_of_mem hc hspace hnumeral

theorem normalizeScalar_text_revenue : '%' ∉ "Revenue, net.".toList ∧
    normalizeScalar "Revenue, net." = .text "Revenue net" ∧
    normalizeScalar "Revenue net" = .text "Revenue net" := by
  have hpercent : '%' ∉ "Revenue, net.".toList := by decide
  have hread : normalizeScalar "Revenue, net." = .text "Revenue net" :=
    normalizeScalar_of_cleaned_eq (c := 'R') hpercent (by decide +kernel) (by decide) (by decide)
      rfl rfl
  have hspaced : SingleSpaced "Revenue net".toList := unwords_words_eq_iff.mp (by decide)
  obtain ⟨-, hpair, hagain, -⟩ := normalizeScalar_text hpercent hread
  exact ⟨hpercent, hread, hagain.mpr (mt hpair.mpr hspaced.apart)⟩

/-- A dash between spaces, and a comma between words of which one has a digit. -/
theorem wide_gaps_left : normalizeScalar "a - b" = .text "a  b" ∧
    normalizeScalar "a  b" = .text "a b" ∧ normalizeScalar "Q1 , b" = .text "Q1  b" ∧
    normalizeScalar "Q1  b" = .text "Q1 b" := by
  have hall : ∀ p ∈ [("a - b", "a  b"), ("a  b", "a b"), ("Q1 , b", "Q1  b"), ("Q1  b", "Q1 b")],
      normalizeScalar p.1 = .text p.2 := by
    intro p hp
    have hpercent : '%' ∉ p.1.toList := by revert p; decide
    have hcleaned : cleaned p.1 = p.2.toList := by revert p; decide +kernel
    have hopening : '(' ∉ p.2.toList := by revert p; decide
    have hletter : 'b' ∈ p.2.toList := by revert p; decide
    exact normalizeScalar_of_cleaned_eq hpercent hcleaned hopening hletter rfl rfl
  exact ⟨hall ("a - b", "a  b") (by decide), hall ("a  b", "a b") (by decide),
    hall ("Q1 , b", "Q1  b") (by decide), hall ("Q1  b", "Q1 b") (by decide)⟩

end StatementTables.Scalar
