import Mathlib.Data.List.TakeWhile
import StatementTables.Inventory.Basic

/-! # Names of source files

Which trace number the name of a file tells, said through the parts that the name is put together
from: a page's by its first hyphen (`Inventory.pageTraceNo?_eq_some_iff`), a secondary export's by
its last point (`Inventory.secondaryTraceNo?_eq_some_iff`). -/

namespace StatementTables

/-! ### Cutting at a character -/

theorem forall_ne_of_notMem {c : Char} {cs : List Char} (h : c ∉ cs) :
    ∀ a ∈ cs, decide (a ≠ c) = true :=
  fun _ ha => decide_eq_true fun heq => h (heq ▸ ha)

theorem takeWhile_ne_append {c : Char} {before : List Char} (h : c ∉ before) (rest : List Char) :
    (before ++ c :: rest).takeWhile (· ≠ c) = before := by
  rw [List.takeWhile_append_of_pos (forall_ne_of_notMem h), List.takeWhile_cons_of_neg (by simp),
    List.append_nil]

theorem dropWhile_ne_append {c : Char} {before : List Char} (h : c ∉ before) (rest : List Char) :
    (before ++ c :: rest).dropWhile (· ≠ c) = c :: rest := by
  rw [List.dropWhile_append_of_pos (forall_ne_of_notMem h), List.dropWhile_cons_of_neg (by simp)]

theorem takeWhile_ne_eq_self {c : Char} {cs : List Char} (h : c ∉ cs) :
    cs.takeWhile (· ≠ c) = cs :=
  List.takeWhile_eq_self_iff.mpr (forall_ne_of_notMem h)

theorem dropWhile_ne_eq_nil {c : Char} {cs : List Char} (h : c ∉ cs) :
    cs.dropWhile (· ≠ c) = [] :=
  List.dropWhile_eq_nil_iff.mpr (forall_ne_of_notMem h)

namespace Path

theorem atLastPoint?_append {extension : List Char} (h : '.' ∉ extension) (stem : List Char) :
    atLastPoint? (stem ++ '.' :: extension) = some (stem, extension) := by
  have hafter : (stem ++ '.' :: extension).reverse.takeWhile (· ≠ '.') = extension.reverse := by
    rw [List.reverse_append, List.reverse_cons, List.append_assoc, List.singleton_append,
      takeWhile_ne_append (by simpa using h)]
  simp only [atLastPoint?, hafter, List.length_reverse, List.length_append, List.length_cons,
    List.reverse_reverse]
  rw [if_neg (by omega), List.take_left' (by omega)]

theorem atLastPoint?_eq_none {name : List Char} (h : '.' ∉ name) : atLastPoint? name = none := by
  simp only [atLastPoint?, takeWhile_ne_eq_self (mt List.mem_reverse.mp h), List.length_reverse,
    if_true]

theorem atLastPoint?_eq_some_iff {name stem extension : List Char} :
    atLastPoint? name = some (stem, extension) ↔
      name = stem ++ '.' :: extension ∧ '.' ∉ extension := by
  refine ⟨fun h => ?_, fun ⟨hname, hpoint⟩ => hname ▸ atLastPoint?_append hpoint stem⟩
  by_cases hmem : '.' ∈ name.reverse
  · -- the first point from the back is where the list is cut
    obtain ⟨after, before, hsplit, hplain⟩ := List.eq_append_cons_of_mem hmem
    have hname : name = before.reverse ++ '.' :: after.reverse := by
      simpa using congrArg List.reverse hsplit
    have hafter : '.' ∉ after.reverse := mt List.mem_reverse.mp hplain
    rw [hname, atLastPoint?_append hafter] at h
    cases h
    exact ⟨hname, hafter⟩
  · rw [atLastPoint?_eq_none (mt List.mem_reverse.mpr hmem)] at h
    cases h

end Path

namespace Inventory

variable {name traceNo : String}

/-! ### Pages -/

theorem pageTraceNo?_append {before rest : List Char} (hname : name.toList = before ++ '-' :: rest)
    (h : '-' ∉ before) :
    pageTraceNo? name =
      if before = [] ∨ rest = [] ∨ '\n' ∈ rest then none else some (.ofList before) := by
  simp only [pageTraceNo?, hname, takeWhile_ne_append h, dropWhile_ne_append h]
  cases rest with
  | nil => simp
  | cons c rest => simp

theorem pageTraceNo?_eq_some_iff :
    pageTraceNo? name = some traceNo ↔ traceNo ≠ "" ∧ '-' ∉ traceNo.toList ∧
      ∃ rest, name.toList = traceNo.toList ++ '-' :: rest ∧ rest ≠ [] ∧ '\n' ∉ rest := by
  constructor
  · intro h
    by_cases hmem : '-' ∈ name.toList
    · obtain ⟨before, rest, hsplit, hplain⟩ := List.eq_append_cons_of_mem hmem
      rw [pageTraceNo?_append hsplit hplain] at h
      simp only [Option.ite_none_left_eq_some, not_or, Option.some.injEq] at h
      obtain ⟨⟨hne, hrest, hline⟩, rfl⟩ := h
      rw [String.toList_ofList]
      exact ⟨by simpa using hne, hplain, rest, hsplit, hrest, hline⟩
    · simp only [pageTraceNo?, dropWhile_ne_eq_nil hmem, reduceCtorEq] at h
  · rintro ⟨hne, hplain, rest, hname, hrest, hline⟩
    rw [pageTraceNo?_append hname hplain, if_neg (by simp [hne, hrest, hline]),
      String.ofList_toList]

theorem isPageOf_iff :
    isPageOf traceNo name = true ↔ ∃ rest, name.toList = traceNo.toList ++ '-' :: rest := by
  rw [isPageOf, List.isPrefixOf_iff_prefix]
  constructor
  · rintro ⟨rest, hrest⟩
    exact ⟨rest, by simp [← hrest]⟩
  · rintro ⟨rest, hrest⟩
    exact ⟨rest, by simp [hrest]⟩

/-! ### Secondary exports -/

theorem secondaryTraceNo?_append {stem extension : List Char}
    (hname : name.toList = stem ++ '.' :: extension) (h : '.' ∉ extension) :
    secondaryTraceNo? name =
      if stem ≠ [] ∧ extension.map Char.toLower = secondaryExtension.toList
        then some (.ofList stem) else none := by
  simp only [secondaryTraceNo?, Path.splitExtension, hname, Path.atLastPoint?_append h]
  by_cases hstem : stem = []
  · simp [hstem]
  · simp [hstem]

theorem secondaryTraceNo?_eq_some_iff :
    secondaryTraceNo? name = some traceNo ↔ traceNo ≠ "" ∧
      ∃ extension, name.toList = traceNo.toList ++ '.' :: extension ∧
        extension.map Char.toLower = secondaryExtension.toList := by
  constructor
  · intro h
    cases hcut : Path.atLastPoint? name.toList with
    | none => simp [secondaryTraceNo?, Path.splitExtension, hcut] at h
    | some cut =>
        obtain ⟨stem, extension⟩ := cut
        obtain ⟨hname, hplain⟩ := Path.atLastPoint?_eq_some_iff.mp hcut
        rw [secondaryTraceNo?_append hname hplain, Option.ite_none_right_eq_some] at h
        obtain ⟨⟨hstem, hlower⟩, heq⟩ := h
        cases heq
        rw [String.toList_ofList]
        exact ⟨by simpa using hstem, extension, hname, hlower⟩
  · rintro ⟨hne, extension, hname, hlower⟩
    -- lower case leaves a point as it is, and there is none in the extension that is looked for
    have hplain : '.' ∉ extension := fun hmem => by
      have hpoint := List.mem_map_of_mem (f := Char.toLower) hmem
      rw [hlower] at hpoint
      exact absurd hpoint (by decide)
    rw [secondaryTraceNo?_append hname hplain, if_pos ⟨by simpa using hne, hlower⟩,
      String.ofList_toList]

end Inventory

end StatementTables
