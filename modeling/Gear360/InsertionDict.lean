import Mathlib

namespace InsertionDict

variable {κ β : Type} [DecidableEq κ] {dict : List (κ×β)} {key key' : κ} {value : β}

/-- A key that is there keeps its place. -/
def insert (dict : List (κ×β)) (key : κ) (value : β) : List (κ×β) :=
  if ∃ field ∈ dict, field.1 = key then
    dict.map fun field => if field.1 = key then (key, value) else field
  else dict ++ [(key, value)]

/-- The dictionary of these fields, inserted one after another. -/
def ofFields (fields : List (κ×β)) : List (κ×β) :=
  fields.foldl (fun dict field => insert dict field.1 field.2) []

theorem insert_new (h : key ∉ dict.map Prod.fst) :
    insert dict key value = dict ++ [(key, value)] := by
  rw [insert, if_neg]
  rintro ⟨field, hmem, rfl⟩
  exact h (List.mem_map_of_mem hmem)

theorem mem_insert {field : κ×β} (h : field ∈ insert dict key value) :
    field = (key, value) ∨ field ∈ dict := by
  rw [insert] at h
  split_ifs at h with hmem
  · obtain ⟨old, hold, rfl⟩ := List.mem_map.mp h
    split_ifs
    · exact .inl rfl
    · exact .inr hold
  · rw [List.mem_append, List.mem_singleton] at h
    exact h.symm

theorem keys_insert : (insert dict key value).map Prod.fst =
    if key ∈ dict.map Prod.fst then dict.map Prod.fst else dict.map Prod.fst ++ [key] := by
  have hmem : (∃ field ∈ dict, field.1 = key) ↔ key ∈ dict.map Prod.fst := by
    simp only [List.mem_map]
  rw [insert]
  simp only [hmem]
  split_ifs
  · rw [List.map_map]
    apply List.map_congr_left
    intro field _
    simp only [Function.comp_apply]
    split_ifs with heq
    exacts [heq.symm, rfl]
  · rw [List.map_append, List.map_singleton]

theorem nodup_insert (h : (dict.map Prod.fst).Nodup) :
    ((insert dict key value).map Prod.fst).Nodup := by
  rw [keys_insert]
  split_ifs with hmem
  · exact h
  · refine List.nodup_append.mpr ⟨h, List.nodup_singleton key, ?_⟩
    rintro x hx y hy rfl
    exact hmem (List.mem_singleton.mp hy ▸ hx)

theorem mem_ofFields {fields : List (κ×β)} {field : κ×β} (h : field ∈ ofFields fields) :
    field ∈ fields := by
  induction fields using List.reverseRecOn with
  | nil => exact h
  | append_singleton fields last ih =>
    rw [ofFields, List.foldl_append, ← ofFields] at h
    rcases mem_insert h with rfl | h
    · exact List.mem_append_right fields List.mem_cons_self
    · exact List.mem_append_left _ (ih h)

theorem nodup_ofFields (fields : List (κ×β)) : ((ofFields fields).map Prod.fst).Nodup := by
  induction fields using List.reverseRecOn with
  | nil => exact List.nodup_nil
  | append_singleton fields field ih =>
    rw [ofFields, List.foldl_append, ← ofFields]
    exact nodup_insert ih

variable [BEq κ] [LawfulBEq κ]

theorem lookup_field (field : κ×β) (dict : List (κ×β)) (key : κ) :
    (field :: dict).lookup key = if key = field.1 then some field.2 else dict.lookup key := by
  rw [List.lookup_cons]
  split_ifs with h
  · rw [beq_iff_eq.mpr h]
  · rw [beq_eq_false_iff_ne.mpr h]

theorem lookup_insert_self : (insert dict key value).lookup key = some value := by
  by_cases hmem : ∃ field ∈ dict, field.1 = key
  · rw [insert, if_pos hmem]
    induction dict with
    | nil =>
      obtain ⟨field, hfield, -⟩ := hmem
      cases hfield
    | cons field dict ih =>
      rw [List.map_cons, lookup_field]
      by_cases hhead : field.1 = key
      · rw [if_pos hhead, if_pos rfl]
      · obtain ⟨field', hfield', hkey⟩ := hmem
        rw [if_neg hhead, if_neg fun h => hhead h.symm]
        refine ih ⟨field', (List.mem_cons.mp hfield').resolve_left ?_, hkey⟩
        rintro rfl
        exact hhead hkey
  · have hnone : dict.lookup key = none := List.lookup_eq_none_iff.mpr fun field hfield =>
      bne_iff_ne.mpr fun h => hmem ⟨field, hfield, h.symm⟩
    rw [insert, if_neg hmem, List.lookup_append, hnone, lookup_field, if_pos rfl, Option.none_or]

theorem lookup_insert_other (h : key' ≠ key) :
    (insert dict key value).lookup key' = dict.lookup key' := by
  by_cases hmem : ∃ field ∈ dict, field.1 = key
  · rw [insert, if_pos hmem]
    clear hmem
    induction dict with
    | nil => rfl
    | cons field dict ih =>
      rw [List.map_cons, lookup_field, lookup_field, ih]
      by_cases hhead : field.1 = key
      · rw [if_pos hhead, if_neg h, if_neg (hhead ▸ h)]
      · rw [if_neg hhead]
  · rw [insert, if_neg hmem, List.lookup_append, lookup_field, if_neg h, List.lookup_nil,
      Option.or_none]

/-- The last value of a key counts. -/
theorem lookup_ofFields (fields : List (κ×β)) (key : κ) :
    (ofFields fields).lookup key = fields.reverse.lookup key := by
  induction fields using List.reverseRecOn with
  | nil => rfl
  | append_singleton fields field ih =>
    rw [ofFields, List.foldl_append, ← ofFields, List.foldl_cons, List.foldl_nil,
      List.reverse_append, List.reverse_singleton, List.singleton_append, lookup_field]
    split_ifs with h
    · rw [h, lookup_insert_self]
    · rw [lookup_insert_other h, ih]

/-- No key is lost. -/
theorem mem_keys_ofFields {fields : List (κ×β)} {field : κ×β} (h : field ∈ fields) :
    ∃ field' ∈ ofFields fields, field'.1 = field.1 := by
  have hsome : ((ofFields fields).lookup field.1).isSome = true := by
    rw [lookup_ofFields]
    exact List.lookup_isSome_iff.mpr ⟨field, List.mem_reverse.mpr h, beq_self_eq_true field.1⟩
  obtain ⟨field', hmem, hkey⟩ := List.lookup_isSome_iff.mp hsome
  exact ⟨field', hmem, (beq_iff_eq.mp hkey).symm⟩

end InsertionDict
