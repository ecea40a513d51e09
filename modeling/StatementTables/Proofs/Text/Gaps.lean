import StatementTables.Proofs.Text.Spacing

/-! # Gaps

A `Gap` is a stretch of characters of a class between two characters outside it.  What a reader does
to a text it does to each gap: replacing characters (`gap_map_iff`), dropping one
(`gap_without_iff`) and halving pairs of one (`gap_halvePairs_iff`).  Two spaces are beside each
other in a trimmed text exactly if it has a gap of more than one (`hasPair_trimChars_iff`). -/

namespace StatementTables.Text

variable {p : Char → Bool} {c d : Char} {cs gap : List Char}

/-- A stretch of characters of a class, between two characters of the list outside it. -/
def Gap (p : Char → Bool) (gap cs : List Char) : Prop :=
  (∀ c ∈ gap, p c = true) ∧
    ∃ front a b back, cs = front ++ a :: (gap ++ b :: back) ∧ p a = false ∧ p b = false

/-! ### What becomes of a gap -/

theorem gap_map_iff {f : Char → Char} :
    Gap p gap (cs.map f) ↔ ∃ g, Gap (fun c => p (f c)) g cs ∧ g.map f = gap := by
  constructor
  · rintro ⟨hgap, front, a, b, back, hcs, ha, hb⟩
    obtain ⟨front', after, rfl, -, hafter⟩ := List.map_eq_append_iff.mp hcs
    obtain ⟨a', after', rfl, rfl, hafter'⟩ := List.map_eq_cons_iff.mp hafter
    obtain ⟨g, last, rfl, rfl, hlast⟩ := List.map_eq_append_iff.mp hafter'
    obtain ⟨b', back', rfl, rfl, -⟩ := List.map_eq_cons_iff.mp hlast
    exact ⟨g, ⟨List.forall_mem_map.mp hgap, front', a', b', back', rfl, ha, hb⟩, rfl⟩
  · rintro ⟨g, ⟨hgap, front, a, b, back, rfl, ha, hb⟩, rfl⟩
    refine ⟨List.forall_mem_map.mpr hgap, front.map f, f a, f b, back.map f, ?_, ha, hb⟩
    simp

theorem without_append_cons (h : c ≠ d) (front back : List Char) :
    without d (front ++ c :: back) = without d front ++ c :: without d back := by
  have hkept : without d (c :: back) = c :: without d back :=
    List.filter_cons_of_pos (by simpa using h)
  rw [without_append, hkept]

theorem exists_of_without_eq {front back : List Char} (h : without d cs = front ++ c :: back) :
    ∃ front' back', cs = front' ++ c :: back' ∧ without d front' = front ∧
      without d back' = back := by
  obtain ⟨before, after, rfl, hbefore, hafter⟩ := List.filter_eq_append_iff.mp h
  obtain ⟨skipped, back', rfl, hskipped, -, hback⟩ := List.filter_eq_cons_iff.mp hafter
  refine ⟨before ++ skipped, back', (List.append_assoc _ _ _).symm, ?_, hback⟩
  have hnone : without d skipped = [] := List.filter_eq_nil_iff.mpr hskipped
  rw [without_append, hnone, List.append_nil]
  exact hbefore

theorem gap_without_iff :
    Gap p gap (without d cs) ↔ ∃ g, Gap (fun c => p c || c == d) g cs ∧ without d g = gap := by
  constructor
  · rintro ⟨hgap, front, a, b, back, hcs, ha, hb⟩
    have hkept : ∀ c ∈ without d cs, (c == d) = false := by
      intro c hc
      have hne := List.of_mem_filter hc
      simpa using hne
    rw [hcs] at hkept
    obtain ⟨front', after, rfl, -, hafter⟩ := exists_of_without_eq hcs
    obtain ⟨g, back', rfl, rfl, -⟩ := exists_of_without_eq hafter
    refine ⟨g, ⟨fun c hc => ?_, front', a, b, back', rfl, ?_, ?_⟩, rfl⟩
    · by_cases heq : c = d
      · simp [heq]
      · have hmem : c ∈ without d g := List.mem_filter.mpr ⟨hc, by simpa using heq⟩
        simp [hgap c hmem]
    · simp [ha, hkept a (by simp)]
    · simp [hb, hkept b (by simp)]
  · rintro ⟨g, ⟨hgap, front, a, b, back, rfl, ha, hb⟩, rfl⟩
    rw [Bool.or_eq_false_iff, beq_eq_false_iff_ne] at ha hb
    refine ⟨fun c hc => ?_, without d front, a, b, without d back, ?_, ha.1, hb.1⟩
    · obtain ⟨hmem, hne⟩ := List.mem_filter.mp hc
      simpa [of_decide_eq_true hne] using hgap c hmem
    · rw [without_append_cons ha.2, without_append_cons hb.2]

/-! ### Pairs -/

theorem halvePairs_append_cons (h : d ≠ c) (front back : List Char) :
    halvePairs c (front ++ d :: back) = halvePairs c front ++ d :: halvePairs c back := by
  fun_induction halvePairs c front with
  | case1 a b rest hpair ih =>
      rw [List.cons_append, List.cons_append, halvePairs, if_pos hpair, ih, List.cons_append]
  | case2 a b rest hpair ih =>
      rw [List.cons_append, List.cons_append, halvePairs, if_neg hpair]
      rw [List.cons_append] at ih
      rw [ih, List.cons_append]
  | case3 front hshort =>
      have hself : halvePairs c (d :: back) = d :: halvePairs c back := by
        cases back with
        | nil => rfl
        | cons e back => rw [halvePairs, if_neg fun hpair => h hpair.1]
      cases front with
      | nil => exact hself
      | cons a front =>
          cases front with
          | nil =>
              rw [List.singleton_append, halvePairs, if_neg fun hpair => h hpair.2, hself]
              rfl
          | cons b rest => exact absurd rfl (hshort a b rest)

theorem exists_of_halvePairs_eq (h : d ≠ c) {front back : List Char}
    (heq : halvePairs c cs = front ++ d :: back) :
    ∃ front' back', cs = front' ++ d :: back' ∧ halvePairs c front' = front ∧
      halvePairs c back' = back := by
  fun_induction halvePairs c cs generalizing front with
  | case1 a b rest hpair ih =>
      rcases List.cons_eq_append_iff.mp heq with ⟨-, hnil⟩ | ⟨front, rfl, hrest⟩
      · exact absurd (List.cons.inj hnil).1 h
      · obtain ⟨front', back', rfl, rfl, rfl⟩ := ih hrest
        refine ⟨a :: b :: front', back', rfl, ?_, rfl⟩
        rw [halvePairs, if_pos hpair]
  | case2 a b rest hpair ih =>
      rcases List.cons_eq_append_iff.mp heq with ⟨rfl, hnil⟩ | ⟨front, rfl, hrest⟩
      · obtain ⟨rfl, rfl⟩ := List.cons.inj hnil
        exact ⟨[], b :: rest, rfl, rfl, rfl⟩
      · obtain ⟨front', back', hcs, rfl, rfl⟩ := ih hrest
        refine ⟨a :: front', back', congrArg _ hcs, ?_, rfl⟩
        cases front' with
        | nil => rfl
        | cons e front' =>
            obtain ⟨rfl, -⟩ := List.cons.inj hcs
            rw [halvePairs, if_neg hpair]
  | case3 cs hshort =>
      subst heq
      cases front with
      | nil =>
          cases back with
          | nil => exact ⟨[], [], rfl, rfl, rfl⟩
          | cons e back => exact absurd rfl (hshort d e back)
      | cons a front =>
          cases front with
          | nil => exact absurd rfl (hshort a d back)
          | cons e front => exact absurd rfl (hshort a e (front ++ d :: back))

theorem mem_halvePairs_iff : d ∈ halvePairs c cs ↔ d ∈ cs := by
  fun_induction halvePairs c cs with
  | case1 a b rest hpair ih => simp [ih, hpair]
  | case2 a b rest hpair ih => rw [List.mem_cons, ih, ← List.mem_cons]
  | case3 => rfl

theorem gap_halvePairs_iff (hc : p c = true) :
    Gap p gap (halvePairs c cs) ↔ ∃ g, Gap p g cs ∧ halvePairs c g = gap := by
  have hne : ∀ {d : Char}, p d = false → d ≠ c := by
    rintro d hd rfl
    rw [hc] at hd
    cases hd
  constructor
  · rintro ⟨hgap, front, a, b, back, hcs, ha, hb⟩
    obtain ⟨front', after, rfl, -, hafter⟩ := exists_of_halvePairs_eq (hne ha) hcs
    obtain ⟨g, back', rfl, rfl, -⟩ := exists_of_halvePairs_eq (hne hb) hafter
    have hg : ∀ d ∈ g, p d = true := fun d hd => hgap d (mem_halvePairs_iff.mpr hd)
    exact ⟨g, ⟨hg, front', a, b, back', rfl, ha, hb⟩, rfl⟩
  · rintro ⟨g, ⟨hgap, front, a, b, back, rfl, ha, hb⟩, rfl⟩
    have hg : ∀ d ∈ halvePairs c g, p d = true := fun d hd => hgap d (mem_halvePairs_iff.mp hd)
    refine ⟨hg, halvePairs c front, a, b, halvePairs c back, ?_, ha, hb⟩
    rw [halvePairs_append_cons (hne ha), halvePairs_append_cons (hne hb)]

theorem halvePairs_of_not_hasPair (h : ¬ HasPair cs) : halvePairs ' ' cs = cs := by
  fun_induction halvePairs ' ' cs with
  | case1 a b rest hpair ih => exact absurd (hasPair_cons_iff.mpr (.inl (by simp [hpair]))) h
  | case2 a b rest hpair ih => rw [ih fun hrest => h (hasPair_cons_iff.mpr (.inr hrest))]
  | case3 => rfl

theorem length_halvePairs_of_forall (h : ∀ d ∈ cs, d = c) :
    (halvePairs c cs).length = (cs.length + 1) / 2 := by
  fun_induction halvePairs c cs with
  | case1 a b rest hpair ih =>
      rw [List.length_cons, ih fun d hd => h d (by simp [hd]), List.length_cons, List.length_cons]
      omega
  | case2 a b rest hpair ih => exact absurd ⟨h a (by simp), h b (by simp)⟩ hpair
  | case3 cs hshort =>
      rcases cs with - | ⟨a, - | ⟨b, rest⟩⟩
      · rfl
      · simp
      · exact absurd rfl (hshort a b rest)

/-! ### What is left after trimming -/

theorem exists_first_ink (h : ¬ Blank cs) :
    ∃ front b back, cs = front ++ b :: back ∧ Blank front ∧ isSpace b = false := by
  have hne : cs.dropWhile isSpace ≠ [] := mt List.dropWhile_eq_nil_iff.mp h
  obtain ⟨b, back, hafter⟩ := List.exists_cons_of_ne_nil hne
  refine ⟨cs.takeWhile isSpace, b, back, ?_, fun c hc => List.mem_takeWhile_imp hc, ?_⟩
  · rw [← hafter, List.takeWhile_append_dropWhile]
  · exact stops_cons.mp (hafter ▸ stops_dropWhile isSpace cs)

theorem exists_last_ink (h : ¬ Blank cs) :
    ∃ front a back, cs = front ++ a :: back ∧ isSpace a = false ∧ Blank back := by
  have hreverse : ¬ Blank cs.reverse := fun hblank => h fun c hc => hblank c (by simpa using hc)
  obtain ⟨back, a, front, hcs, hback, ha⟩ := exists_first_ink hreverse
  refine ⟨front.reverse, a, back.reverse, ?_, ha, fun c hc => hback c (by simpa using hc)⟩
  rw [← List.reverse_reverse cs, hcs]
  simp

theorem not_blank_of_stops {rest : List Char} (hc : isSpace c = true)
    (h : Stops isSpace (cs ++ c :: rest)) : ¬ Blank cs := by
  intro hblank
  cases cs with
  | nil => simp [hc] at h
  | cons d cs =>
      have hd := hblank d List.mem_cons_self
      simp [hd] at h

theorem exists_gap_of_hasPair (h : HasPair (trimChars cs)) :
    ∃ gap, Gap isSpace gap cs ∧ 2 ≤ gap.length := by
  obtain ⟨before, after, htrim⟩ := h
  rw [List.append_assoc] at htrim
  have hstart := htrim ▸ stops_trimChars cs
  have hend := htrim ▸ stops_reverse_trimChars cs
  have hafter : ¬ Blank after := by
    simp only [List.reverse_append, List.reverse_cons, List.nil_append, List.cons_append,
      List.append_assoc] at hend
    exact fun hblank => not_blank_of_stops rfl hend fun c hc => hblank c (by simpa using hc)
  obtain ⟨front, a, left, rfl, ha, hleft⟩ := exists_last_ink (not_blank_of_stops rfl hstart)
  obtain ⟨right, b, back, rfl, hright, hb⟩ := exists_first_ink hafter
  obtain ⟨start, rest, -, -, hcs⟩ := exists_trim cs
  refine ⟨left ++ ' ' :: ' ' :: right, ⟨?_, start ++ front, a, b, back ++ rest, ?_, ha, hb⟩, ?_⟩
  · intro c hc
    simp only [List.mem_append, List.mem_cons] at hc
    rcases hc with hc | rfl | rfl | hc
    · exact hleft c hc
    · rfl
    · rfl
    · exact hright c hc
  · rw [hcs, ← htrim]
    simp
  · simp only [List.length_append, List.length_cons]
    omega

/-- Between two characters that are no white space nothing is trimmed. -/
theorem Gap.exists_trimChars {gap : List Char} (h : Gap isSpace gap cs) :
    ∃ front a b back, trimChars cs = front ++ a :: (gap ++ b :: back) := by
  obtain ⟨-, front, a, b, back, rfl, ha, hb⟩ := h
  have hassoc : trimStart front ++ a :: (gap ++ b :: back) =
      (trimStart front ++ a :: gap) ++ b :: back := by simp
  refine ⟨trimStart front, a, b, trimEnd back, ?_⟩
  rw [trimChars, trimStart_append_cons ha, hassoc, trimEnd_append_cons hb]
  simp

theorem hasPair_trimChars_iff (hspaces : ∀ c ∈ cs, isSpace c = true → c = ' ') :
    HasPair (trimChars cs) ↔ ∃ gap, Gap isSpace gap cs ∧ 2 ≤ gap.length := by
  constructor
  · exact exists_gap_of_hasPair
  · rintro ⟨gap, hgap, hlength⟩
    obtain ⟨front, a, b, back, htrim⟩ := hgap.exists_trimChars
    have hblank : ∀ c ∈ gap, c = ' ' := by
      intro c hc
      obtain ⟨hspace, before, a', b', after, rfl, -, -⟩ := hgap
      exact hspaces c (by simp [hc]) (hspace c hc)
    rcases gap with - | ⟨c, - | ⟨d, gap⟩⟩
    · simp at hlength
    · simp at hlength
    · obtain rfl : c = ' ' := hblank c (by simp)
      obtain rfl : d = ' ' := hblank d (by simp)
      rw [htrim]
      exact ⟨front ++ [a], gap ++ b :: back, by simp⟩

end StatementTables.Text
