import StatementTables.Json.Writer
import StatementTables.Proofs.Json.Fields

/-! # Values read again

What a text holds is in a form of its own: the fields of each object are ordered, and nothing is
nested too deep.  A value that was read has this form all the way down, so it is read as itself
again (`value?_toRaw`), whatever order, repetition and spelling the text had
(`value?_toRaw_of_ofString?`). -/

namespace StatementTables.Json

/-! ### Lists of values and fields -/

/-- Items that are each read as themselves are read as they are. -/
theorem itemValues?_rawItems {depth : Nat} {items : List Json}
    (h : ∀ item ∈ items, (toRaw item).value? depth = some item) :
    itemValues? depth (rawItems items) = some items := by
  induction items with
  | nil => rfl
  | cons item rest ih =>
      obtain ⟨hitem, hrest⟩ := List.forall_mem_cons.mp h
      rw [rawItems, itemValues?, hitem, ih hrest]
      rfl

theorem fieldValues?_rawFields {depth : Nat} {fields : Fields}
    (h : ∀ f ∈ fields, (toRaw f.2).value? depth = some f.2) :
    fieldValues? depth (rawFields fields) = some fields := by
  induction fields with
  | nil => rfl
  | cons f rest ih =>
      obtain ⟨hf, hrest⟩ := List.forall_mem_cons.mp h
      rw [rawFields, fieldValues?, hf, ih hrest]
      rfl

/-! ### One value -/

mutual

/-- A value that was read is read as itself, where it was allowed the same depth. -/
theorem value?_toRaw {depth : Nat} :
    ∀ {raw : Raw} {j : Json}, raw.value? depth = some j → (toRaw j).value? depth = some j
  | .null, j, h => by
      cases h
      rfl
  | .bool b, j, h => by
      cases h
      rfl
  | .number n, j, h => by
      obtain ⟨n, rfl, rfl⟩ := Option.map_eq_some_iff.mp h
      rfl
  | .string s, j, h => by
      obtain ⟨s, rfl, rfl⟩ := Option.map_eq_some_iff.mp h
      rfl
  | .array raws, j, h => by
      rw [Raw.value?] at h
      split at h
      · cases h
      · rename_i hdepth
        obtain ⟨items, hitems, rfl⟩ := Option.map_eq_some_iff.mp h
        rw [toRaw, Raw.value?, if_neg hdepth,
          itemValues?_rawItems fun item hitem => toRaw_of_itemValues? hitems item hitem]
        rfl
  | .object raws, j, h => by
      rw [Raw.value?] at h
      split at h
      · cases h
      · rename_i hdepth
        obtain ⟨pairs, hpairs, rfl⟩ := Option.map_eq_some_iff.mp h
        rw [toRaw, Raw.value?, if_neg hdepth, fieldValues?_rawFields fun f hf =>
          toRaw_of_fieldValues? hpairs f (Fields.mem_ofList hf), Option.map_some,
          Fields.ofList_eq_self (Fields.ordered_ofList pairs)]

theorem toRaw_of_itemValues? {depth : Nat} :
    ∀ {raws : List Raw} {items : List Json}, itemValues? depth raws = some items →
      ∀ item ∈ items, (toRaw item).value? depth = some item
  | [], items, h, item, hitem => by
      cases h
      cases hitem
  | raw :: raws, items, h, item, hitem => by
      obtain ⟨first, hfirst, h⟩ := Option.bind_eq_some_iff.mp h
      obtain ⟨rest, hrest, h⟩ := Option.bind_eq_some_iff.mp h
      cases h
      rcases List.mem_cons.mp hitem with rfl | hitem
      · exact value?_toRaw hfirst
      · exact toRaw_of_itemValues? hrest item hitem

theorem toRaw_of_fieldValues? {depth : Nat} :
    ∀ {raws : List (Option String × Raw)} {pairs : List (String × Json)},
      fieldValues? depth raws = some pairs →
        ∀ f ∈ pairs, (toRaw f.2).value? depth = some f.2
  | [], pairs, h, f, hf => by
      cases h
      cases hf
  | (name?, raw) :: raws, pairs, h, f, hf => by
      obtain ⟨name, -, h⟩ := Option.bind_eq_some_iff.mp h
      obtain ⟨value, hvalue, h⟩ := Option.bind_eq_some_iff.mp h
      obtain ⟨rest, hrest, h⟩ := Option.bind_eq_some_iff.mp h
      cases h
      rcases List.mem_cons.mp hf with rfl | hf
      · exact value?_toRaw hvalue
      · exact toRaw_of_fieldValues? hrest f hf

end

/-! ### Whole texts -/

/-- The value of a text is read as itself. -/
theorem value?_toRaw_of_ofString? {text : String} {j : Json} (h : ofString? text = some j) :
    (toRaw j).value? maxDepth = some j := by
  obtain ⟨raw, -, hvalue⟩ := Option.bind_eq_some_iff.mp h
  exact value?_toRaw hvalue

/-- The last of two fields with one name counts, and fields come in the order of their names. -/
example : (ofString? " \x7b\"b\": [1, null], \"a\": 2, \"b\": true\x7d ").map compact =
    some "\x7b\"a\":2,\"b\":true\x7d" := by
  decide +kernel

end StatementTables.Json
