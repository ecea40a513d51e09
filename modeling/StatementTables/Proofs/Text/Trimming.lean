import Mathlib.Data.List.DropRight
import StatementTables.Proofs.Text.Classes

/-! # Trimming

A list is what is left of it after trimming, between two stretches of white space (`exists_trim`),
and white space that is put at either end makes no difference (`trimChars_blank_append`,
`trimChars_append_blank`).  A character that is dropped before trimming makes a difference only if
it is left after trimming (`trimChars_without_eq_iff`). -/

namespace StatementTables.Text

/-- A list of nothing but white space. -/
def Blank (cs : List Char) : Prop :=
  ∀ c ∈ cs, isSpace c = true

variable {cs : List Char}

theorem isBlank_iff {text : String} : isBlank text = true ↔ Blank text.toList :=
  List.all_eq_true

theorem blank_flatMap_iff {texts : List String} :
    Blank (texts.flatMap String.toList) ↔ ∀ text ∈ texts, isBlank text = true := by
  constructor
  · intro h text htext
    exact isBlank_iff.mpr fun c hc => h c (List.mem_flatMap.mpr ⟨text, htext, hc⟩)
  · intro h c hc
    obtain ⟨text, htext, hc⟩ := List.mem_flatMap.mp hc
    exact isBlank_iff.mp (h text htext) c hc

/-! ### White space at the ends -/

theorem trimEnd_eq_rdropWhile (cs : List Char) : trimEnd cs = cs.rdropWhile isSpace := rfl

theorem trimChars_blank_append {front : List Char} (h : Blank front) (cs : List Char) :
    trimChars (front ++ cs) = trimChars cs := by
  unfold trimChars trimStart
  rw [List.dropWhile_append_of_pos h]

theorem trimEnd_append_blank {back : List Char} (h : Blank back) (cs : List Char) :
    trimEnd (cs ++ back) = trimEnd cs := by
  unfold trimEnd
  rw [List.reverse_append, List.dropWhile_append_of_pos fun c hc => h c (List.mem_reverse.mp hc)]

theorem trimChars_append_blank {back : List Char} (h : Blank back) (cs : List Char) :
    trimChars (cs ++ back) = trimChars cs := by
  unfold trimChars trimStart
  rw [List.dropWhile_append]
  split
  · rename_i hempty
    rw [List.isEmpty_iff.mp hempty, List.dropWhile_eq_nil_iff.mpr h]
  · exact trimEnd_append_blank h _

/-- What trimming takes off is white space. -/
theorem exists_trim (cs : List Char) :
    ∃ front back, Blank front ∧ Blank back ∧ cs = front ++ trimChars cs ++ back := by
  refine ⟨cs.takeWhile isSpace, (trimStart cs).rtakeWhile isSpace,
    fun c hc => List.mem_takeWhile_imp hc, fun c hc => List.mem_rtakeWhile_imp hc, ?_⟩
  calc cs = cs.takeWhile isSpace ++ trimStart cs := List.takeWhile_append_dropWhile.symm
    _ = cs.takeWhile isSpace ++ (trimChars cs ++ (trimStart cs).rtakeWhile isSpace) := by
        rw [trimChars, trimEnd_eq_rdropWhile, List.rdropWhile_append_rtakeWhile]
    _ = _ := (List.append_assoc _ _ _).symm

@[simp] theorem trimChars_trimChars (cs : List Char) : trimChars (trimChars cs) = trimChars cs := by
  obtain ⟨front, back, hfront, hback, hcs⟩ := exists_trim cs
  have htrim := congrArg trimChars hcs
  rw [trimChars_append_blank hback, trimChars_blank_append hfront] at htrim
  exact htrim.symm

theorem stops_reverse_trimChars (cs : List Char) : Stops isSpace (trimChars cs).reverse := by
  unfold trimChars trimEnd
  rw [List.reverse_reverse]
  exact stops_dropWhile _ _

theorem stops_trimChars (cs : List Char) : Stops isSpace (trimChars cs) := by
  have hsplit : trimChars cs ++ (trimStart cs).rtakeWhile isSpace = trimStart cs :=
    List.rdropWhile_append_rtakeWhile
  refine Stops.left (b := (trimStart cs).rtakeWhile isSpace) ?_
  rw [hsplit]
  exact stops_dropWhile _ _

/-- Without white space at the end, a list is trimmed at its front only. -/
theorem trimChars_eq_trimStart (h : Stops isSpace cs.reverse) : trimChars cs = trimStart cs := by
  have hend : Stops isSpace (trimStart cs).reverse := by
    refine Stops.left (b := (cs.takeWhile isSpace).reverse) ?_
    rw [← List.reverse_append]
    unfold trimStart
    rwa [List.takeWhile_append_dropWhile]
  unfold trimChars trimEnd
  rw [dropWhile_eq_self_of_stops hend, List.reverse_reverse]

theorem trimStart_append_cons {c : Char} (hc : isSpace c = false) (cs ds : List Char) :
    trimStart (cs ++ c :: ds) = trimStart cs ++ c :: ds := by
  unfold trimStart
  rw [List.dropWhile_append]
  split
  · rename_i hblank
    rw [List.dropWhile_cons_of_neg (by simp [hc]), List.isEmpty_iff.mp hblank]
    rfl
  · rfl

theorem trimEnd_append_cons {c : Char} (hc : isSpace c = false) (cs ds : List Char) :
    trimEnd (cs ++ c :: ds) = cs ++ c :: trimEnd ds := by
  unfold trimEnd
  rw [List.reverse_append, List.reverse_cons, List.append_assoc, List.dropWhile_append]
  split
  · rename_i hblank
    rw [List.singleton_append, List.dropWhile_cons_of_neg (by simp [hc]),
      List.isEmpty_iff.mp hblank]
    simp
  · simp

theorem trimChars_sublist (cs : List Char) : (trimChars cs).Sublist cs := by
  obtain ⟨front, back, -, -, hcs⟩ := exists_trim cs
  have hmiddle : (trimChars cs).Sublist (front ++ trimChars cs ++ back) :=
    (List.sublist_append_right front _).trans (List.sublist_append_left _ back)
  rwa [← hcs] at hmiddle

theorem mem_trimChars_iff {c : Char} (hc : isSpace c = false) : c ∈ trimChars cs ↔ c ∈ cs := by
  refine ⟨fun h => (trimChars_sublist cs).subset h, fun h => ?_⟩
  obtain ⟨front, back, hfront, hback, hcs⟩ := exists_trim cs
  have hnot : ∀ {ds : List Char}, Blank ds → c ∉ ds := by
    intro ds hds hmem
    rw [hds c hmem] at hc
    cases hc
  rw [hcs, List.mem_append, List.mem_append] at h
  rcases h with (h | h) | h
  · exact absurd h (hnot hfront)
  · exact h
  · exact absurd h (hnot hback)

/-! ### What is not white space -/

/-- How much of a list is no white space. -/
def inkCount (cs : List Char) : Nat :=
  cs.countP fun c => !isSpace c

theorem inkCount_append (cs ds : List Char) : inkCount (cs ++ ds) = inkCount cs + inkCount ds :=
  List.countP_append

theorem inkCount_eq_zero_iff : inkCount cs = 0 ↔ Blank cs := by
  unfold inkCount Blank
  rw [List.countP_eq_zero]
  simp

theorem inkCount_trimChars (cs : List Char) : inkCount (trimChars cs) = inkCount cs := by
  obtain ⟨front, back, hfront, hback, hcs⟩ := exists_trim cs
  have hcount := congrArg inkCount hcs
  rw [inkCount_append, inkCount_append, inkCount_eq_zero_iff.mpr hfront,
    inkCount_eq_zero_iff.mpr hback, Nat.zero_add, Nat.add_zero] at hcount
  exact hcount.symm

/-! ### Dropping a character -/

section without
variable {c : Char}

theorem without_append (c : Char) (cs ds : List Char) :
    without c (cs ++ ds) = without c cs ++ without c ds :=
  List.filter_append cs ds

theorem notMem_without (c : Char) (cs : List Char) : c ∉ without c cs := by
  simp [without]

theorem without_eq_self_iff : without c cs = cs ↔ c ∉ cs := by
  unfold without
  rw [List.filter_eq_self]
  constructor
  · intro h hc
    simpa using h c hc
  · intro h d hd
    have hne : d ≠ c := fun heq => h (heq ▸ hd)
    simpa using hne

theorem Blank.without (h : Blank cs) (c : Char) : Blank (without c cs) :=
  fun d hd => h d (List.mem_of_mem_filter hd)

theorem inkCount_without (hc : isSpace c = true) (cs : List Char) :
    inkCount (Text.without c cs) = inkCount cs := by
  unfold inkCount Text.without
  rw [List.countP_filter]
  refine List.countP_congr fun d _ => ?_
  by_cases hd : d = c
  · simp [hd, hc]
  · simp [hd]

theorem trimChars_without_eq_iff :
    trimChars (Text.without c cs) = trimChars cs ↔ c ∉ trimChars cs := by
  constructor
  · intro h hc
    rw [← h] at hc
    exact notMem_without c cs ((trimChars_sublist _).subset hc)
  · intro h
    obtain ⟨front, back, hfront, hback, hcs⟩ := exists_trim cs
    have hwithout : Text.without c cs =
        Text.without c front ++ trimChars cs ++ Text.without c back := by
      conv_lhs => rw [hcs]
      rw [without_append, without_append, without_eq_self_iff.mpr h]
    rw [hwithout, trimChars_append_blank (hback.without c),
      trimChars_blank_append (hfront.without c), trimChars_trimChars]

theorem blank_without_iff (hc : isSpace c = true) : Blank (Text.without c cs) ↔ Blank cs := by
  rw [← inkCount_eq_zero_iff, inkCount_without hc, inkCount_eq_zero_iff]

/-- A space character is dropped from a list and what follows it, and the trimmed list is the same:
nothing but white space follows, and none of the characters dropped was left. -/
theorem trimChars_eq_trimChars_without_append_iff (hc : isSpace c = true) (cs rest : List Char) :
    trimChars cs = trimChars (Text.without c (cs ++ rest)) ↔ Blank rest ∧ c ∉ trimChars cs := by
  have hblank : Blank rest →
      trimChars (Text.without c (cs ++ rest)) = trimChars (Text.without c cs) :=
    fun h => by rw [without_append, trimChars_append_blank (h.without c)]
  constructor
  · intro h
    have hink := congrArg inkCount h
    rw [inkCount_trimChars, inkCount_trimChars, inkCount_without hc, inkCount_append] at hink
    have hrest : Blank rest := inkCount_eq_zero_iff.mp (by omega)
    rw [hblank hrest] at h
    exact ⟨hrest, trimChars_without_eq_iff.mp h.symm⟩
  · rintro ⟨hrest, hnone⟩
    rw [hblank hrest, trimChars_without_eq_iff.mpr hnone]

end without

end StatementTables.Text
