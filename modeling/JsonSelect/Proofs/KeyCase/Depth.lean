import JsonSelect.Proofs.KeyCase.Inverse

/-! Renaming to one depth after another. The deeper of the two is what remains of both, also where
keys have become equal. -/
namespace JsonSelect.KeyCase

open Text

variable {keyCase : KeyCase} {key : List Char} {depth deeper : Nat} {value : Json}
  {fields : Fields} {field : String × Json}

theorem joined_of_isSeparator (ha : IsAscii key) (hs : ∀ c ∈ key, isSeparator c = false) :
    joined false key = key := by
  induction key with
  | nil => rfl
  | cons c rest ih =>
    obtain ⟨hc, hr⟩ := isAscii_cons.mp ha
    obtain ⟨hcs, hrs⟩ := List.forall_mem_cons.mp hs
    rw [joined_cons hcs hc, if_neg (by simp), ih hr hrs]

/-- A key in camel case is left as it is. -/
theorem camelCased_of_isCamel (h : IsCamel key) : camelCased key = key := by
  obtain ⟨ha, hs, hu⟩ := h
  rw [camelCased, joined_of_isSeparator ha hs]
  cases key with
  | nil => rfl
  | cons c rest =>
    rw [lowerFirst_cons (isAscii_cons.mp ha).1,
      Char.toLower_eq_of_not_isUpper (by simp [hu c rfl])]

theorem separated_of_isUpper (h : ∀ c ∈ key, c.isUpper = false) : separated key = key := by
  induction key with
  | nil => rfl
  | cons c rest ih =>
    obtain ⟨hc, hr⟩ := List.forall_mem_cons.mp h
    rw [separated, if_neg (by simp [hc]), ih hr]

theorem map_toLower_of_isUpper (h : ∀ c ∈ key, c.isUpper = false) :
    key.map Char.toLower = key :=
  (List.map_congr_left fun c hc => Char.toLower_eq_of_not_isUpper (by simp [h c hc])).trans
    (List.map_id' key)

/-- Snake case only looks for capitals. -/
theorem snakeCased_of_isUpper (ha : IsAscii key) (h : ∀ c ∈ key, c.isUpper = false) :
    snakeCased key = key := by
  cases key with
  | nil => rfl
  | cons c rest =>
    rw [snakeCased_cons ha, separated_of_isUpper (List.forall_mem_cons.mp h).2, ← List.map_cons,
      map_toLower_of_isUpper h]

theorem isUpper_of_mem_snakeCased (ha : IsAscii key) : ∀ c ∈ snakeCased key, c.isUpper = false := by
  cases key with
  | nil => exact List.forall_mem_nil _
  | cons c rest =>
    rw [snakeCased_cons ha, ← List.map_cons]
    intro d hd
    obtain ⟨e, -, rfl⟩ := List.mem_map.mp hd
    exact Char.isUpper_toLower_eq_false e

theorem apply_apply {key : String} (h : IsAscii key.toList) :
    keyCase.apply (keyCase.apply key) = keyCase.apply key := by
  cases keyCase with
  | camel =>
    simp only [apply, String.toList_ofList]
    rw [camelCased_of_isCamel (isCamel_camelCased h)]
  | snake =>
    simp only [apply, String.toList_ofList]
    rw [snakeCased_of_isUpper (isAscii_snakeCased h) (isUpper_of_mem_snakeCased h)]

/-- Where keys that have been renamed are renamed again, only the values change, and so no further
keys become equal. -/
theorem ofList_renamed_again (hk : ∀ field ∈ fields, keyCase.apply field.1 = field.1) :
    Fields.ofList (keyCase.renamed depth (Fields.ofList fields)) =
      Fields.ofList (fields.map (Prod.map id (keyCase.renameKeys depth))) := by
  have hr : keyCase.renamed depth (Fields.ofList fields) =
      (Fields.ofList fields).map (Prod.map id (keyCase.renameKeys depth)) :=
    List.map_congr_left fun field hf =>
      Prod.ext (hk field (Fields.mem_of_mem_ofList hf)) rfl
  rw [hr, ← Fields.ofList_map, Fields.ofList_of_nodup (Fields.nodup_ofList _)]

theorem renameKeys_renameKeys (h : AsciiKeys (max depth deeper) value) :
    keyCase.renameKeys deeper (keyCase.renameKeys depth value) =
      keyCase.renameKeys (max depth deeper) value := by
  induction depth generalizing deeper value with
  | zero => rw [Nat.zero_max]; rfl
  | succ depth ih =>
    cases deeper with
    | zero => rw [Nat.max_zero]; rfl
    | succ deeper =>
      rw [Nat.succ_max_succ] at h ⊢
      cases value with
      | object fields =>
        have hk : ∀ field ∈ keyCase.renamed depth fields, keyCase.apply field.1 = field.1 := by
          intro field hf
          obtain ⟨source, hs, rfl⟩ := List.mem_map.mp hf
          exact apply_apply (h source hs).1
        rw [renameKeys_object, renameKeys_object, renameKeys_object, ofList_renamed_again hk,
          renamed, List.map_map]
        congr 2
        exact List.map_congr_left fun field hf => Prod.ext rfl (ih (h field hf).2)
      | null | bool _ | number _ | string _ | array _ => rfl

theorem convert_convert (h : AsciiPayload (max depth deeper) value) :
    keyCase.convert deeper (keyCase.convert depth value) =
      keyCase.convert (max depth deeper) value := by
  cases value with
  | string key => exact congrArg Json.string (apply_apply h)
  | object _ | null | bool _ | number _ | array _ =>
    -- What is renamed is no text, so it is not taken for a key.
    cases depth with
    | zero => rw [Nat.zero_max]; rfl
    | succ depth => exact renameKeys_renameKeys h

/-- Renaming to one depth and then to another is renaming to the deeper of the two, and so a second
renaming to the same depth changes nothing. -/
theorem conversion_depths_compose (keyCase : KeyCase) :
    (∀ depth deeper value, AsciiPayload (max depth deeper) value →
      keyCase.convert deeper (keyCase.convert depth value) =
        keyCase.convert (max depth deeper) value) ∧
    ∀ depth value, AsciiPayload depth value →
      keyCase.convert depth (keyCase.convert depth value) = keyCase.convert depth value := by
  refine ⟨fun _ _ _ => convert_convert, fun depth value h => ?_⟩
  rw [convert_convert (by rwa [Nat.max_self]), Nat.max_self]

/-- Two keys become one, and then two more below the one that stays. -/
theorem conversion_depths_compose_merged :
    let payload : Json := .object [("user_id", .object [("x_y", .null)]), ("z", .null),
      ("user-id", .object [("a_b", .null), ("aB", .object [("c_d", .bool true)])])]
    let first : Json := .object [("userId", .object [("a_b", .null),
      ("aB", .object [("c_d", .bool true)])]), ("z", .null)]
    let merged : Json := .object [("userId", .object [("aB", .object [("c_d", .bool true)])]),
      ("z", .null)]
    AsciiPayload 2 payload ∧ camel.convert 1 payload = first ∧ camel.convert 2 first = merged ∧
      camel.convert 2 payload = merged ∧ camel.convert 1 merged = merged ∧
      AsciiPayload 1 payload ∧ camel.convert 1 first = first := by
  intro payload first merged
  have ha : AsciiPayload 2 payload := by decide +kernel
  have h1 : AsciiPayload 1 payload := by decide +kernel
  have hf : camel.convert 1 payload = first := by cbv
  have hm : camel.convert 2 payload = merged := by cbv
  have hs := (conversion_depths_compose camel).1 1 2 payload ha
  have hd := (conversion_depths_compose camel).1 2 1 payload ha
  have hi := (conversion_depths_compose camel).2 1 payload h1
  rw [hf] at hs hi
  rw [hm] at hd
  exact ⟨ha, hf, hs.trans hm, hm, hd.trans hm, h1, hi⟩

end JsonSelect.KeyCase
