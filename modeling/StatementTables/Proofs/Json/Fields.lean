import StatementTables.Json.Decoder
import StatementTables.Proofs.Lookup

/-! # Fields in order

The fields of an object ascend by name (`Ordered`), so that no name is there twice
(`Ordered.nodup`).  Setting a field keeps them so, and so does setting many (`Ordered.insert`,
`Ordered.merge`); any list of fields becomes ordered (`ordered_ofList`), one that is ordered stays
as it is (`ofList_eq_self`), and the fields of an object that is read are ordered
(`ordered_of_decoder`, `ordered_of_list`).  After fields with different names are set, each has the
value it was given, and any other is as it was (`get?_merge`). -/

namespace StatementTables.Fields

/-- The names ascend. -/
def Ordered (fields : Fields) : Prop :=
  fields.Pairwise fun f g => f.1 < g.1

variable {fields others : Fields} {name : String} {value : Json}

/-- No name is there twice. -/
theorem Ordered.nodup (h : Ordered fields) : (fields.map Prod.fst).Nodup := by
  refine List.pairwise_map.mpr (h.imp fun {f g} hlt heq => ?_)
  rw [heq] at hlt
  exact String.lt_irrefl _ hlt

/-! ### One field -/

theorem mem_insert {f : String × Json} (h : f ∈ fields.insert name value) :
    f = (name, value) ∨ f ∈ fields := by
  induction fields with
  | nil => exact .inl (List.mem_singleton.mp h)
  | cons g rest ih =>
      rw [insert] at h
      split at h
      · exact List.mem_cons.mp h
      · split at h
        · exact (List.mem_cons.mp h).imp_right (List.mem_cons_of_mem _)
        · rcases List.mem_cons.mp h with h | h
          · exact .inr (h ▸ List.mem_cons_self)
          · exact (ih h).imp_right (List.mem_cons_of_mem _)

/-- A name after all others gets its place at the end. -/
theorem insert_eq_append (h : ∀ f ∈ fields, f.1 < name) :
    fields.insert name value = fields ++ [(name, value)] := by
  induction fields with
  | nil => rfl
  | cons f rest ih =>
      obtain ⟨hlt, hrest⟩ := List.forall_mem_cons.mp h
      have hne : name ≠ f.1 := by
        rintro rfl
        exact String.lt_irrefl _ hlt
      rw [Fields.insert, if_neg (String.not_lt.mpr (Std.le_of_lt hlt)), if_neg hne, ih hrest,
        List.cons_append]

theorem Ordered.insert (h : Ordered fields) : Ordered (fields.insert name value) := by
  induction fields with
  | nil => exact List.pairwise_singleton _ _
  | cons g rest ih =>
      obtain ⟨other, v⟩ := g
      obtain ⟨hfirst, hrest⟩ := List.pairwise_cons.mp h
      rw [Fields.insert]
      split
      · rename_i hlt
        refine List.pairwise_cons.mpr ⟨fun f hf => ?_, h⟩
        rcases List.mem_cons.mp hf with rfl | hf
        · exact hlt
        · exact String.lt_trans hlt (hfirst f hf)
      · rename_i hle
        split
        · rename_i heq
          subst heq
          exact List.pairwise_cons.mpr ⟨hfirst, hrest⟩
        · rename_i hne
          have hlt : other < name :=
            Std.lt_of_le_of_ne (String.not_lt.mp hle) (Ne.symm hne)
          refine List.pairwise_cons.mpr ⟨fun f hf => ?_, ih hrest⟩
          rcases mem_insert hf with rfl | hf
          · exact hlt
          · exact hfirst f hf

theorem get?_insert (fields : Fields) (name : String) (value : Json) (other : String) :
    get? (fields.insert name value) other =
      if other = name then some value else get? fields other := by
  split
  · rename_i heq
    rw [heq, get?_insert_self]
  · rename_i hne
    exact get?_insert_of_ne hne fields value

/-! ### Many fields -/

theorem Ordered.merge (h : Ordered fields) (others : Fields) : Ordered (fields.merge others) := by
  unfold Fields.merge
  induction others generalizing fields with
  | nil => exact h
  | cons f rest ih => exact ih h.insert

theorem ordered_ofList (pairs : List (String × Json)) : Ordered (ofList pairs) :=
  Ordered.merge List.Pairwise.nil pairs

theorem mem_merge {f : String × Json} (h : f ∈ fields.merge others) : f ∈ others ∨ f ∈ fields := by
  unfold Fields.merge at h
  induction others generalizing fields with
  | nil => exact .inr h
  | cons g rest ih =>
      rcases ih h with hrest | hset
      · exact .inl (List.mem_cons_of_mem _ hrest)
      · exact (mem_insert hset).imp_left fun (heq : f = g) => heq ▸ List.mem_cons_self

theorem mem_ofList {pairs : List (String × Json)} {f : String × Json} (h : f ∈ ofList pairs) :
    f ∈ pairs :=
  (mem_merge h).resolve_right List.not_mem_nil

theorem merge_eq_append (h : Ordered (fields ++ others)) :
    fields.merge others = fields ++ others := by
  unfold Fields.merge
  induction others generalizing fields with
  | nil => exact (List.append_nil fields).symm
  | cons f rest ih =>
      have hbefore : ∀ g ∈ fields, g.1 < f.1 := fun g hg =>
        (List.pairwise_append.mp h).2.2 g hg f List.mem_cons_self
      rw [List.append_cons] at h
      rw [List.foldl_cons, insert_eq_append hbefore, ih h, List.append_cons fields f rest]

/-- Fields in order stay as they are. -/
theorem ofList_eq_self (h : Ordered fields) : ofList fields = fields :=
  merge_eq_append h

/-- The fields of an object that is read are ordered. -/
theorem ordered_of_decoder {depth : Nat} {raw : Json.Raw}
    (h : Json.Decoder.fields depth raw = some fields) : Ordered fields := by
  unfold Json.Decoder.fields at h
  split at h
  · rename_i fs hvalue
    cases h
    cases raw with
    | object pairs =>
        rw [Json.Raw.value?] at hvalue
        split at hvalue
        · cases hvalue
        · obtain ⟨list, -, hlist⟩ := Option.map_eq_some_iff.mp hvalue
          cases hlist
          exact ordered_ofList list
    | array items =>
        rw [Json.Raw.value?] at hvalue
        split at hvalue
        · cases hvalue
        · obtain ⟨list, -, hlist⟩ := Option.map_eq_some_iff.mp hvalue
          cases hlist
    | null => cases hvalue
    | bool b => cases hvalue
    | number n => cases n <;> cases hvalue
    | string s => cases s <;> cases hvalue
  · cases h

theorem ordered_of_mapM {depth : Nat} {raws : List Json.Raw} {records : List Fields}
    (h : raws.mapM (Json.Decoder.fields depth) = some records) :
    ∀ fields ∈ records, Ordered fields := by
  induction raws generalizing records with
  | nil =>
      cases h
      exact List.forall_mem_nil _
  | cons raw raws ih =>
      rw [List.mapM_cons] at h
      obtain ⟨first, hfirst, h⟩ := Option.bind_eq_some_iff.mp h
      obtain ⟨rest, hrest, h⟩ := Option.bind_eq_some_iff.mp h
      cases h
      exact List.forall_mem_cons.mpr ⟨ordered_of_decoder hfirst, ih hrest⟩

/-- So are the fields of every object in an array that is read. -/
theorem ordered_of_list {depth : Nat} {raw : Json.Raw} {records : List Fields}
    (h : Json.Decoder.list .fields depth raw = some records) :
    ∀ fields ∈ records, Ordered fields := by
  cases raw with
  | array items =>
      rw [Json.Decoder.list] at h
      split at h
      · cases h
      · exact ordered_of_mapM h
  | _ => cases h

/-- The fields set have their new values, the others their old ones. -/
theorem get?_merge (hothers : (others.map Prod.fst).Nodup) (fields : Fields) (name : String) :
    get? (fields.merge others) name = (get? others name).or (get? fields name) := by
  unfold merge
  induction others generalizing fields with
  | nil => rfl
  | cons f rest ih =>
      obtain ⟨other, v⟩ := f
      rw [List.map_cons, List.nodup_cons] at hothers
      rw [List.foldl_cons, ih hothers.2, get?_insert]
      unfold get?
      rw [List.lookup_cons]
      by_cases hname : name = other
      · rw [hname, lookup_eq_none_of_notMem hothers.1]
        simp
      · rw [if_neg hname, beq_false_of_ne hname]

theorem get?_ofList {pairs : List (String × Json)} (h : (pairs.map Prod.fst).Nodup)
    (name : String) : get? (ofList pairs) name = get? pairs name := by
  unfold ofList
  rw [get?_merge h]
  exact Option.or_none

end StatementTables.Fields
