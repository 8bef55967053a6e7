import JsonSelect.Json.Basic
import Mathlib.Data.List.Induction

/-! Objects put together from a list of entries. -/
namespace JsonSelect.Fields

variable {key : String} {value : Json} {field : String × Json} {fields entries : Fields}

/-- A new key comes after those that are there. -/
theorem insert_of_notMem (h : key ∉ fields.map Prod.fst) :
    insert key value fields = fields ++ [(key, value)] := by
  induction fields with
  | nil => rfl
  | cons entry rest ih =>
    rw [List.map_cons, List.mem_cons, not_or] at h
    obtain ⟨hne, hr⟩ := h
    rw [insert, if_neg (Ne.symm hne), ih hr, List.cons_append]

theorem foldl_insert_of_nodup (h : ((fields ++ entries).map Prod.fst).Nodup) :
    entries.foldl (fun fields entry => insert entry.1 entry.2 fields) fields =
      fields ++ entries := by
  induction entries generalizing fields with
  | nil => rw [List.foldl_nil, List.append_nil]
  | cons entry rest ih =>
    have hk : entry.1 ∉ fields.map Prod.fst := by
      rw [List.map_append, List.map_cons] at h
      intro hm
      exact (List.nodup_append.mp h).2.2 _ hm _ List.mem_cons_self rfl
    have hr : ((fields ++ [entry] ++ rest).map Prod.fst).Nodup := by
      rwa [List.append_assoc, List.singleton_append]
    rw [List.foldl_cons, insert_of_notMem hk, ih hr, List.append_assoc, List.singleton_append]

/-- Entries with distinct keys are kept as they are. -/
theorem ofList_of_nodup (h : (entries.map Prod.fst).Nodup) : ofList entries = entries :=
  foldl_insert_of_nodup h

/-- A key that is there already keeps its place. -/
theorem keys_insert_of_mem (h : key ∈ fields.map Prod.fst) :
    (insert key value fields).map Prod.fst = fields.map Prod.fst := by
  induction fields with
  | nil => cases h
  | cons entry rest ih =>
    rw [insert]
    split
    next he => rw [List.map_cons, List.map_cons, he]
    next hne =>
      have hr : key ∈ rest.map Prod.fst := (List.mem_cons.mp h).resolve_left (Ne.symm hne)
      rw [List.map_cons, List.map_cons, ih hr]

theorem nodup_insert (h : (fields.map Prod.fst).Nodup) :
    ((insert key value fields).map Prod.fst).Nodup := by
  by_cases hk : key ∈ fields.map Prod.fst
  · rwa [keys_insert_of_mem hk]
  · rw [insert_of_notMem hk, List.map_append]
    refine List.nodup_append.mpr ⟨h, List.pairwise_singleton _ key, ?_⟩
    rintro other ho _ hm rfl
    obtain rfl : other = key := List.mem_singleton.mp hm
    exact hk ho

theorem mem_insert (h : field ∈ insert key value fields) :
    field = (key, value) ∨ field ∈ fields := by
  induction fields with
  | nil => exact .inl (List.mem_singleton.mp h)
  | cons entry rest ih =>
    rw [insert] at h
    split at h
    next => exact (List.mem_cons.mp h).imp_right (List.mem_cons_of_mem entry)
    next =>
      rcases List.mem_cons.mp h with rfl | hm
      · exact .inr List.mem_cons_self
      · exact (ih hm).imp_right (List.mem_cons_of_mem entry)

theorem nodup_foldl_insert (h : (fields.map Prod.fst).Nodup) : ((entries.foldl
    (fun fields entry => insert entry.1 entry.2 fields) fields).map Prod.fst).Nodup := by
  induction entries generalizing fields with
  | nil => exact h
  | cons entry rest ih => exact ih (nodup_insert h)

theorem mem_foldl_insert
    (h : field ∈ entries.foldl (fun fields entry => insert entry.1 entry.2 fields) fields) :
    field ∈ entries ∨ field ∈ fields := by
  induction entries generalizing fields with
  | nil => exact .inr h
  | cons entry rest ih =>
    rcases ih h with hm | hm
    · exact .inl (List.mem_cons_of_mem entry hm)
    · rcases mem_insert hm with rfl | hf
      · exact .inl List.mem_cons_self
      · exact .inr hf

theorem nodup_ofList (entries : Fields) : ((ofList entries).map Prod.fst).Nodup :=
  nodup_foldl_insert List.nodup_nil

/-- Nothing is made up. -/
theorem mem_of_mem_ofList (h : field ∈ ofList entries) : field ∈ entries :=
  (mem_foldl_insert h).resolve_right List.not_mem_nil

theorem insert_map (f : Json → Json) (key : String) (value : Json) (fields : Fields) :
    (insert key value fields).map (Prod.map id f) =
      insert key (f value) (fields.map (Prod.map id f)) := by
  induction fields with
  | nil => rfl
  | cons entry rest ih =>
    simp only [insert, List.map_cons, Prod.map_fst, id_eq]
    split
    · rfl
    · rw [List.map_cons, ih]
      rfl

/-- It does not matter whether values are changed before equal keys are merged or after it. -/
theorem ofList_map (f : Json → Json) (entries : Fields) :
    ofList (entries.map (Prod.map id f)) = (ofList entries).map (Prod.map id f) := by
  have h : ∀ fields : Fields, (entries.map (Prod.map id f)).foldl
      (fun fields entry => insert entry.1 entry.2 fields) (fields.map (Prod.map id f)) =
        (entries.foldl (fun fields entry => insert entry.1 entry.2 fields) fields).map
          (Prod.map id f) := by
    induction entries with
    | nil => exact fun _ => rfl
    | cons entry rest ih =>
      intro fields
      rw [List.map_cons, List.foldl_cons, List.foldl_cons, ← ih, insert_map]
      rfl
  exact h []

theorem ofList_append_singleton (entries : Fields) (entry : String × Json) :
    ofList (entries ++ [entry]) = insert entry.1 entry.2 (ofList entries) := by
  rw [ofList, List.foldl_append]
  rfl

/-- Every key once, where it stands for the first time. -/
theorem keys_ofList (entries : Fields) :
    (ofList entries).map Prod.fst = (entries.map Prod.fst).eraseDups := by
  induction entries using List.reverseRecOn with
  | nil => rfl
  | append_singleton entries entry ih =>
    rw [ofList_append_singleton, List.map_append, List.eraseDups_append, ← ih]
    by_cases hk : entry.1 ∈ (ofList entries).map Prod.fst
    · have he : entry.1 ∈ entries.map Prod.fst := List.mem_eraseDups.mp (ih ▸ hk)
      simp [keys_insert_of_mem hk, List.removeAll, he]
    · have he : entry.1 ∉ entries.map Prod.fst := fun he => hk (ih ▸ List.mem_eraseDups.mpr he)
      simp [insert_of_notMem hk, List.removeAll, he, List.eraseDups_cons]

theorem get?_cons (entry : String × Json) (rest : Fields) (key : String) :
    get? (entry :: rest) key = if key = entry.1 then some entry.2 else get? rest key := by
  rw [get?, List.lookup_cons]
  by_cases hk : key = entry.1
  · rw [if_pos hk, beq_iff_eq.mpr hk]
  · rw [if_neg hk, beq_eq_false_iff_ne.mpr hk]
    rfl

theorem get?_insert (key other : String) (value : Json) (fields : Fields) :
    get? (insert key value fields) other =
      if other = key then some value else get? fields other := by
  induction fields with
  | nil => exact get?_cons (key, value) [] other
  | cons entry rest ih =>
    rw [insert]
    split
    next he => rw [get?_cons, get?_cons, he]; split <;> rfl
    next hne =>
      rw [get?_cons, get?_cons, ih]
      by_cases hk : other = key
      · rw [if_pos hk, if_pos hk, if_neg fun he => hne (he.symm.trans hk)]
      · rw [if_neg hk, if_neg hk]

theorem get?_ofList_of_notMem {before after : Fields} (h : key ∉ after.map Prod.fst) :
    get? (ofList (before ++ (key, value) :: after)) key = some value := by
  induction after using List.reverseRecOn with
  | nil =>
    rw [ofList_append_singleton, get?_insert, if_pos rfl]
  | append_singleton after entry ih =>
    rw [List.map_append, List.mem_append, not_or] at h
    have hne : key ≠ entry.1 := fun he => h.2 (he ▸ List.mem_cons_self)
    rw [← List.cons_append, ← List.append_assoc, ofList_append_singleton, get?_insert,
      if_neg hne, ih h.1]

theorem exists_last (h : key ∈ entries.map Prod.fst) :
    ∃ before value after, entries = before ++ (key, value) :: after ∧
      key ∉ after.map Prod.fst := by
  induction entries with
  | nil => cases h
  | cons entry rest ih =>
    by_cases hr : key ∈ rest.map Prod.fst
    · obtain ⟨before, value, after, rfl, ha⟩ := ih hr
      exact ⟨entry :: before, value, after, rfl, ha⟩
    · obtain rfl : key = entry.1 := (List.mem_cons.mp h).resolve_right hr
      exact ⟨[], entry.2, rest, rfl, hr⟩

theorem mem_of_get? (h : get? fields key = some value) : (key, value) ∈ fields := by
  obtain ⟨before, after, rfl, -⟩ := List.lookup_eq_some_iff.mp h
  exact List.mem_append_right before List.mem_cons_self

/-- Of the values that were given for a key the last one stays. -/
theorem get?_ofList_eq_some_iff : get? (ofList entries) key = some value ↔
    ∃ before after, entries = before ++ (key, value) :: after ∧ key ∉ after.map Prod.fst := by
  constructor
  · intro h
    have hk : key ∈ entries.map Prod.fst := by
      rw [← List.mem_eraseDups, ← keys_ofList]
      exact List.mem_map_of_mem (mem_of_get? h)
    obtain ⟨before, last, after, rfl, ha⟩ := exists_last hk
    rw [get?_ofList_of_notMem ha] at h
    cases h
    exact ⟨before, after, rfl, ha⟩
  · rintro ⟨before, after, rfl, ha⟩
    exact get?_ofList_of_notMem ha

end JsonSelect.Fields
