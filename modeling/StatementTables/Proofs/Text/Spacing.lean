import StatementTables.Proofs.Text.Words

/-! # Words and the space between them

The words of a list are told by a relation, `Split`: stretches without white space, with white space
between them.  `words` finds them (`split_iff`), since white space parts a list and its words
(`words_append_space`).

A list is `SingleSpaced` if its only white space is single spaces between words.  Joined words are
(`singleSpaced_unwords`), and such a list is the join of its words (`unwords_words_eq_iff`). -/

namespace StatementTables.Text

variable {c : Char} {cs : List Char} {ws : List (List Char)}

/-! ### Words -/

/-- A stretch of characters without white space. -/
structure IsWord (word : List Char) : Prop where
  nonempty : word ≠ []
  inked : ∀ c ∈ word, isSpace c = false

/-- The words of a list, in order. -/
inductive Split : List Char → List (List Char) → Prop where
  | blank {cs : List Char} : Blank cs → Split cs []
  | word {gap word rest : List Char} {ws : List (List Char)} :
      Blank gap → IsWord word → Stops (fun c => !isSpace c) rest → Split rest ws →
        Split (gap ++ (word ++ rest)) (word :: ws)

theorem wordsFrom_append_space (hc : isSpace c = true) (word cs rest : List Char) :
    wordsFrom word (cs ++ c :: rest) = wordsFrom word cs ++ words rest := by
  induction cs generalizing word with
  | nil =>
      simp only [List.nil_append, wordsFrom, if_pos hc]
      split
      · rfl
      · rfl
  | cons d cs ih =>
      simp only [List.cons_append, wordsFrom]
      split
      · split
        · exact ih []
        · rw [ih [], List.cons_append]
      · exact ih (word ++ [d])

/-- White space parts the words. -/
theorem words_append_space (hc : isSpace c = true) (cs rest : List Char) :
    words (cs ++ c :: rest) = words cs ++ words rest :=
  wordsFrom_append_space hc [] cs rest

theorem words_cons_space (hc : isSpace c = true) (cs : List Char) : words (c :: cs) = words cs :=
  words_append_space hc [] cs

theorem words_blank_append {gap : List Char} (h : Blank gap) (cs : List Char) :
    words (gap ++ cs) = words cs := by
  induction gap with
  | nil => rfl
  | cons c gap ih =>
      have hgap : Blank gap := fun d hd => h d (List.mem_cons_of_mem c hd)
      rw [List.cons_append, words_cons_space (h c List.mem_cons_self), ih hgap]

theorem words_of_blank (h : Blank cs) : words cs = [] := by
  have happend := words_blank_append h []
  rwa [List.append_nil] at happend

theorem IsWord.words_eq {word : List Char} (h : IsWord word) : words word = [word] :=
  words_eq_singleton h.inked h.nonempty

theorem Split.words_eq (h : Split cs ws) : words cs = ws := by
  induction h with
  | blank hblank => exact words_of_blank hblank
  | @word gap word rest ws hgap hword hstops _ ih =>
      rw [words_blank_append hgap]
      cases rest with
      | nil =>
          have hnil : ws = [] := ih.symm
          rw [List.append_nil, hnil, hword.words_eq]
      | cons c rest =>
          have hc : isSpace c = true := by simpa using stops_cons.mp hstops
          rw [words_cons_space hc] at ih
          rw [words_append_space hc, hword.words_eq, ih]
          rfl

theorem exists_split (cs : List Char) : ∃ ws, Split cs ws := by
  induction h : cs.length using Nat.strong_induction_on generalizing cs with
  | _ n ih =>
  have hgap : Blank (cs.takeWhile isSpace) := fun c hc => List.mem_takeWhile_imp hc
  have hcs : cs.takeWhile isSpace ++ cs.dropWhile isSpace = cs := List.takeWhile_append_dropWhile
  cases hafter : cs.dropWhile isSpace with
  | nil =>
      rw [hafter, List.append_nil] at hcs
      exact ⟨[], .blank (hcs ▸ hgap)⟩
  | cons c after =>
      have hc : isSpace c = false := stops_cons.mp (hafter ▸ stops_dropWhile isSpace cs)
      -- the first word and what follows it
      have hword : IsWord ((c :: after).takeWhile fun d => !isSpace d) := by
        refine ⟨by simp [hc], fun d hd => ?_⟩
        simpa using List.mem_takeWhile_imp hd
      have hlength : ((c :: after).dropWhile fun d => !isSpace d).length < n := by
        have hrest : ((c :: after).dropWhile fun d => !isSpace d).length ≤ after.length := by
          rw [List.dropWhile_cons_of_pos (by simp [hc])]
          exact (List.dropWhile_sublist _).length_le
        have hsub := (List.dropWhile_sublist isSpace (l := cs)).length_le
        rw [hafter, List.length_cons] at hsub
        omega
      obtain ⟨ws, hws⟩ := ih _ hlength _ rfl
      have hsplit := Split.word hgap hword (stops_dropWhile _ _) hws
      rw [List.takeWhile_append_dropWhile, ← hafter, hcs] at hsplit
      exact ⟨_, hsplit⟩

theorem split_words (cs : List Char) : Split cs (words cs) := by
  obtain ⟨ws, hws⟩ := exists_split cs
  rwa [hws.words_eq]

/-- A list has the words that are found, and no others. -/
theorem split_iff : Split cs ws ↔ words cs = ws :=
  ⟨Split.words_eq, fun h => h ▸ split_words cs⟩

theorem Split.isWord (h : Split cs ws) : ∀ word ∈ ws, IsWord word := by
  induction h with
  | blank => exact List.forall_mem_nil _
  | word _ hword _ _ ih => exact List.forall_mem_cons.mpr ⟨hword, ih⟩

theorem isWord_of_mem_words {word : List Char} (h : word ∈ words cs) : IsWord word :=
  (split_words cs).isWord word h

theorem words_append_blank {gap : List Char} (h : Blank gap) (cs : List Char) :
    words (cs ++ gap) = words cs := by
  cases gap with
  | nil => rw [List.append_nil]
  | cons c gap =>
      have hgap : Blank gap := fun d hd => h d (List.mem_cons_of_mem c hd)
      rw [words_append_space (h c List.mem_cons_self), words_of_blank hgap, List.append_nil]

theorem words_trimChars (cs : List Char) : words (trimChars cs) = words cs := by
  obtain ⟨front, back, hfront, hback, hcs⟩ := exists_trim cs
  conv_rhs => rw [hcs]
  rw [words_append_blank hback, words_blank_append hfront]

theorem wordsFrom_append_ink {front : List Char} (h : ∀ c ∈ front, isSpace c = false)
    (word cs : List Char) : wordsFrom word (front ++ cs) = wordsFrom (word ++ front) cs := by
  induction front generalizing word with
  | nil => rw [List.nil_append, List.append_nil]
  | cons c front ih =>
      rw [List.forall_mem_cons] at h
      rw [List.cons_append, wordsFrom, h.1, if_neg Bool.false_ne_true, ih h.2, List.append_assoc]
      rfl

theorem wordsFrom_without (hc : isSpace c = false) (word cs : List Char) :
    wordsFrom (without c word) (without c cs) =
      ((wordsFrom word cs).map (without c)).filter fun w => !w.isEmpty := by
  induction cs generalizing word with
  | nil =>
      have hnil : without c [] = [] := rfl
      rw [hnil, wordsFrom, wordsFrom]
      cases word with
      | nil => rfl
      | cons d word =>
          rw [List.isEmpty_cons, if_neg Bool.false_ne_true, List.map_singleton, List.filter_cons]
          cases hkept : (without c (d :: word)).isEmpty <;> simp
  | cons d cs ih =>
      by_cases heq : d = c
      · subst heq
        have hdrop : without d (d :: cs) = without d cs := by simp [without]
        have hword : without d (word ++ [d]) = without d word := by simp [without]
        rw [hdrop, wordsFrom, hc, if_neg Bool.false_ne_true, ← ih (word ++ [d]), hword]
      · have hkeep : without c (d :: cs) = d :: without c cs := by simp [without, heq]
        rw [hkeep, wordsFrom, wordsFrom]
        split
        · have hnil : without c [] = [] := rfl
          have hrest := ih []
          rw [hnil] at hrest
          rw [hrest]
          cases word with
          | nil => rfl
          | cons e word =>
              rw [List.isEmpty_cons, if_neg Bool.false_ne_true, List.map_cons, List.filter_cons]
              cases hkept : (without c (e :: word)).isEmpty <;> simp
        · have hword : without c (word ++ [d]) = without c word ++ [d] := by simp [without, heq]
          rw [← hword, ih (word ++ [d])]

/-- Dropping a character drops it from the words, and those that were nothing else. -/
theorem words_without (hc : isSpace c = false) (cs : List Char) :
    words (without c cs) = ((words cs).map (without c)).filter fun w => !w.isEmpty :=
  wordsFrom_without hc [] cs

/-- A list of one word is that word, and white space around it. -/
theorem trimChars_of_words_eq_singleton {word : List Char} (h : words cs = [word]) :
    trimChars cs = word := by
  cases split_iff.mpr h with
  | word hgap hword _ hrest =>
      cases hrest with
      | blank hblank =>
          rw [trimChars_blank_append hgap, trimChars_append_blank hblank,
            trimChars_of_forall hword.inked]

/-! ### Stretches of a list -/

theorem cons_infix_append_iff {front part : List Char} (h : c ∉ front) :
    c :: part <:+: front ++ cs ↔ c :: part <:+: cs := by
  induction front with
  | nil => rfl
  | cons d front ih =>
      rw [List.mem_cons, not_or] at h
      rw [List.cons_append, List.infix_cons_iff, List.cons_prefix_cons, ih h.2]
      simp [h.1]

theorem infix_append_cons_iff {part front back : List Char} (hne : part ≠ []) (h : c ∉ part) :
    part <:+: front ++ c :: back ↔ part <:+: front ∨ part <:+: back := by
  have hfront : ∀ cs, part <+: cs ++ c :: back → part <+: cs := by
    intro cs hpart
    have hmark : cs ++ [c] <+: cs ++ c :: back := ⟨back, by simp⟩
    rcases List.prefix_or_prefix_of_prefix hpart hmark with hshort | hlong
    · refine (List.prefix_concat_iff.mp hshort).resolve_left ?_
      rintro rfl
      exact h (by simp)
    · exact absurd (hlong.subset (by simp)) h
  induction front with
  | nil =>
      rw [List.nil_append, List.infix_cons_iff, List.infix_nil]
      have hnone : ¬ part <+: c :: back := fun hpart => hne (List.prefix_nil.mp (hfront [] hpart))
      simp [hne, hnone]
  | cons d front ih =>
      have hstart : part <+: d :: (front ++ c :: back) ↔ part <+: d :: front :=
        ⟨hfront (d :: front), fun hpart => hpart.trans (List.prefix_append _ _)⟩
      rw [List.cons_append, List.infix_cons_iff, hstart, List.infix_cons_iff, or_assoc]
      exact or_congr_right ih

/-- A stretch without white space is in one of the words. -/
theorem infix_iff_exists_word {part : List Char} (hpart : IsWord part) (cs : List Char) :
    part <:+: cs ↔ ∃ word ∈ words cs, part <:+: word := by
  induction h : cs.length using Nat.strong_induction_on generalizing cs with
  | _ n ih =>
  by_cases hspace : ∃ c ∈ cs, isSpace c = true
  · obtain ⟨c, hmem, hc⟩ := hspace
    obtain ⟨front, back, rfl⟩ := List.append_of_mem hmem
    have hnot : c ∉ part := by
      intro hcpart
      rw [hpart.inked c hcpart] at hc
      cases hc
    simp only [List.length_append, List.length_cons] at h
    rw [infix_append_cons_iff hpart.nonempty hnot, words_append_space hc,
      ih front.length (by omega) front rfl, ih back.length (by omega) back rfl]
    simp [or_and_right, exists_or]
  · by_cases hne : cs = []
    · have hnil : words [] = [] := rfl
      rw [hne, hnil]
      simp [hpart.nonempty]
    · have hword : IsWord cs := ⟨hne, fun c hc => by simpa using fun h => hspace ⟨c, hc, h⟩⟩
      rw [hword.words_eq]
      simp

/-! ### Pairs of spaces -/

/-- Two spaces beside each other. -/
def HasPair (cs : List Char) : Prop :=
  [' ', ' '] <:+: cs

theorem hasPair_cons_iff : HasPair (c :: cs) ↔ (c = ' ' ∧ cs.head? = some ' ') ∨ HasPair cs := by
  unfold HasPair
  rw [List.infix_cons_iff]
  cases cs with
  | nil => simp
  | cons d cs => simp [eq_comm]

theorem hasPair_append_iff {front : List Char} (h : ' ' ∉ front) :
    HasPair (front ++ cs) ↔ HasPair cs :=
  cons_infix_append_iff h

/-- After a space that has no other beside it there is no white space. -/
theorem stops_after_space (hspaces : ∀ c ∈ cs, isSpace c = true → c = ' ')
    (hapart : ¬ HasPair (' ' :: cs)) : Stops isSpace cs := by
  intro d hd
  rw [← Bool.not_eq_true]
  intro hspace
  obtain rfl : d = ' ' := hspaces d (List.mem_of_mem_head? hd) hspace
  exact hapart (hasPair_cons_iff.mpr (.inl ⟨rfl, hd⟩))

/-! ### Single spaces -/

/-- The only white space is single spaces, and none of them is at an end. -/
structure SingleSpaced (cs : List Char) : Prop where
  spaces : ∀ c ∈ cs, isSpace c = true → c = ' '
  apart : ¬ HasPair cs
  front : Stops isSpace cs
  back : Stops isSpace cs.reverse

theorem IsWord.notMem_space {word : List Char} (h : IsWord word) : ' ' ∉ word := by
  intro hmem
  have hink := h.inked ' ' hmem
  cases hink

theorem IsWord.stops_append {word : List Char} (h : IsWord word) (cs : List Char) :
    Stops isSpace (word ++ cs) := by
  obtain ⟨d, ds, rfl⟩ := List.exists_cons_of_ne_nil h.nonempty
  exact stops_cons.mpr (h.inked d List.mem_cons_self)

theorem IsWord.stops_reverse_append {word : List Char} (h : IsWord word) (cs : List Char) :
    Stops isSpace (cs ++ word).reverse := by
  have hreverse : IsWord word.reverse :=
    ⟨by simpa using h.nonempty, fun d hd => h.inked d (List.mem_reverse.mp hd)⟩
  rw [List.reverse_append]
  exact hreverse.stops_append _

theorem singleSpaced_nil : SingleSpaced [] :=
  ⟨List.forall_mem_nil _, by simp [HasPair], stops_nil, stops_nil⟩

theorem SingleSpaced.cons {word : List Char} (hword : IsWord word) (h : SingleSpaced cs)
    (hne : cs ≠ []) : SingleSpaced (word ++ ' ' :: cs) where
  spaces := by
    intro d hd hspace
    rcases List.mem_append.mp hd with hd | hd
    · rw [hword.inked d hd] at hspace
      cases hspace
    · rcases List.mem_cons.mp hd with rfl | hd
      · rfl
      · exact h.spaces d hd hspace
  apart := by
    rw [hasPair_append_iff hword.notMem_space, hasPair_cons_iff]
    rintro (⟨-, hhead⟩ | hpair)
    · have hspace := h.front ' ' hhead
      cases hspace
    · exact h.apart hpair
  front := hword.stops_append _
  back := by
    obtain ⟨ds, d, rfl⟩ := List.eq_nil_or_concat cs |>.resolve_left hne
    have hback := h.back
    simp only [List.concat_eq_append, List.reverse_append, List.reverse_cons, List.reverse_nil,
      List.nil_append, List.cons_append, stops_cons] at hback ⊢
    exact hback

theorem unwords_eq_nil_iff (h : ∀ word ∈ ws, IsWord word) : unwords ws = [] ↔ ws = [] := by
  fun_cases unwords ws with
  | case1 => simp
  | case2 word => simp [(h word List.mem_cons_self).nonempty]
  | case3 word rest hrest => simp

theorem singleSpaced_unwords (h : ∀ word ∈ ws, IsWord word) : SingleSpaced (unwords ws) := by
  fun_induction unwords ws with
  | case1 => exact singleSpaced_nil
  | case2 word =>
      have hword : IsWord word := h word List.mem_cons_self
      refine ⟨fun d hd hspace => ?_, ?_, ?_, ?_⟩
      · rw [hword.inked d hd] at hspace
        cases hspace
      · have hpair : HasPair (word ++ []) ↔ HasPair [] := hasPair_append_iff hword.notMem_space
        rw [List.append_nil] at hpair
        exact fun hmem => singleSpaced_nil.apart (hpair.mp hmem)
      · simpa using hword.stops_append []
      · exact hword.stops_reverse_append []
  | case3 word rest hrest ih =>
      rw [List.forall_mem_cons] at h
      exact (ih h.2).cons h.1 (mt (unwords_eq_nil_iff h.2).mp hrest)

theorem words_unwords (h : ∀ word ∈ ws, IsWord word) : words (unwords ws) = ws := by
  fun_induction unwords ws with
  | case1 => rfl
  | case2 word => exact (h word List.mem_cons_self).words_eq
  | case3 word rest hrest ih =>
      rw [List.forall_mem_cons] at h
      rw [words_append_space rfl, h.1.words_eq, ih h.2]
      rfl

/-- Apart from white space at its front, a list with single spaces is the join of its words. -/
theorem Split.trimStart_eq (h : Split cs ws) (hspaces : ∀ c ∈ cs, isSpace c = true → c = ' ')
    (hapart : ¬ HasPair cs) (hback : Stops isSpace cs.reverse) : trimStart cs = unwords ws := by
  induction h with
  | blank hblank => exact List.dropWhile_eq_nil_iff.mpr hblank
  | @word gap word rest ws hgap hword hstops hsplit ih =>
      have htrim : trimStart (gap ++ (word ++ rest)) = word ++ rest :=
        dropWhile_append_of_stops hgap (hword.stops_append rest)
      rw [htrim]
      cases rest with
      | nil =>
          have hnil : ws = [] := hsplit.words_eq.symm
          rw [hnil, List.append_nil, unwords]
      | cons c rest =>
          have hc : isSpace c = true := by simpa using stops_cons.mp hstops
          obtain rfl : c = ' ' := hspaces c (by simp) hc
          have hsuffix : ' ' :: rest <:+ gap ++ (word ++ ' ' :: rest) :=
            ⟨gap ++ word, List.append_assoc _ _ _⟩
          have hrest : Stops isSpace rest := by
            refine stops_after_space (fun d hd => hspaces d (hsuffix.subset ?_))
              fun hpair => hapart (hpair.trans hsuffix.isInfix)
            exact List.mem_cons_of_mem _ hd
          have hend : Stops isSpace (' ' :: rest).reverse := by
            refine Stops.left (b := (gap ++ word).reverse) ?_
            rwa [← List.reverse_append, List.append_assoc]
          have hne : rest ≠ [] := by
            rintro rfl
            cases stops_cons.mp hend
          have hjoin : unwords ws = rest := by
            rw [← ih (fun d hd => hspaces d (hsuffix.subset hd))
              (fun hpair => hapart (hpair.trans hsuffix.isInfix)) hend]
            exact dropWhile_eq_self_of_stops hrest
          cases ws with
          | nil => exact absurd hjoin.symm hne
          | cons w ws =>
              rw [unwords, hjoin]
              exact List.cons_ne_nil w ws

/-- A list with single spaces is the join of its words, and no other list is. -/
theorem unwords_words_eq_iff : unwords (words cs) = cs ↔ SingleSpaced cs := by
  constructor
  · intro h
    have hspaced : SingleSpaced (unwords (words cs)) :=
      singleSpaced_unwords fun word hword => isWord_of_mem_words hword
    rwa [h] at hspaced
  · intro h
    rw [← (split_words cs).trimStart_eq h.spaces h.apart h.back]
    exact dropWhile_eq_self_of_stops h.front

end StatementTables.Text
