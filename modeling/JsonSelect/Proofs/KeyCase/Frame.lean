import JsonSelect.Proofs.Json.Path
import JsonSelect.Proofs.KeyCase.Merging

/-! What renaming leaves alone. It reaches keys that fewer than `depth` keys lead to, and nothing
else; a text that is no part of a larger value is taken for a key at every depth. -/
namespace JsonSelect.KeyCase

open Json

variable {keyCase : KeyCase} {depth : Nat} {fields : Fields} {key : String}
  {value held after : Json} {path : List String}

/-- The path leads to the value, and of fields that take one name, which can only be in the first
`depth` objects on the way, it goes through the last. -/
inductive Leads (keyCase : KeyCase) : Nat → List String → Json → Json → Prop where
  | here {depth : Nat} {value : Json} : Leads keyCase (depth + 1) [] value value
  | field {depth : Nat} {fields : Fields} {key : String} {path : List String} {value held : Json}
    (hl : keyCase.IsLast fields key value) (h : Leads keyCase depth path value held) :
    Leads keyCase (depth + 1) (key :: path) (.object fields) held
  | rest {path : List String} {value held : Json} (h : value.at? path = some held) :
    Leads keyCase 0 path value held

/-- The path with the names that its keys have after renaming. -/
def renamedPath (keyCase : KeyCase) (depth : Nat) (path : List String) : List String :=
  (path.take depth).map keyCase.apply ++ path.drop depth

/-- No two fields of an object take one name, `depth` levels down. -/
def Distinct (keyCase : KeyCase) : Nat → Json → Prop
  | depth + 1, .object fields =>
    (fields.map fun field => keyCase.apply field.1).Nodup ∧
      ∀ field ∈ fields, keyCase.Distinct depth field.2
  | _, _ => True

theorem renamedPath_nil (keyCase : KeyCase) (depth : Nat) : keyCase.renamedPath depth [] = [] := by
  rw [renamedPath, List.take_nil, List.drop_nil]
  rfl

theorem renamedPath_zero (keyCase : KeyCase) (path : List String) :
    keyCase.renamedPath 0 path = path := rfl

theorem renamedPath_cons (keyCase : KeyCase) (depth : Nat) (key : String) (path : List String) :
    keyCase.renamedPath (depth + 1) (key :: path) =
      keyCase.apply key :: keyCase.renamedPath depth path := rfl

theorem renameKeys_of_not_isObject (h : value.isObject = false) :
    keyCase.renameKeys depth value = value := by
  cases value with
  | object _ => cases h
  | null | bool _ | number _ | string _ | array _ => cases depth <;> rfl

theorem isObject_renameKeys : (keyCase.renameKeys depth value).isObject = value.isObject := by
  cases value <;> cases depth <;> rfl

theorem convert_of_ne_string (h : ∀ text, value ≠ .string text) :
    keyCase.convert depth value = keyCase.renameKeys depth value := by
  cases value with
  | string text => exact absurd rfl (h text)
  | object _ | null | bool _ | number _ | array _ => rfl

/-- What a path leads to is found again on the renamed path, renamed as far as depth is left. -/
theorem at?_renameKeys_of_leads (h : keyCase.Leads depth path value held) :
    (keyCase.renameKeys depth value).at? (keyCase.renamedPath depth path) =
      some (keyCase.renameKeys (depth - path.length) held) := by
  induction h with
  | here => rw [renamedPath_nil, at?_nil, List.length_nil, Nat.sub_zero]
  | field hl _ ih =>
    rw [renameKeys_object, renamedPath_cons, at?_object, get?_renamed_of_isLast hl,
      Option.bind_some, ih, List.length_cons, Nat.add_sub_add_right]
  | rest h => rw [renameKeys_zero, renamedPath_zero, h, Nat.zero_sub, renameKeys_zero]

/-- An object that depth is left for has the new names of its keys, each once and in their order. -/
theorem keys_at?_renameKeys (h : keyCase.Leads depth path value (.object fields))
    (hd : path.length < depth) :
    ∃ renamed, (keyCase.renameKeys depth value).at? (keyCase.renamedPath depth path) =
        some (.object renamed) ∧
      renamed.map Prod.fst = (fields.map fun field => keyCase.apply field.1).eraseDups := by
  obtain ⟨left, rfl⟩ := Nat.exists_eq_add_of_lt hd
  have hp := at?_renameKeys_of_leads h
  rw [Nat.add_assoc, Nat.add_sub_cancel_left, renameKeys_object] at hp
  refine ⟨_, hp, ?_⟩
  rw [Fields.keys_ofList, keys_renamed]

/-- Renaming makes no paths of its own. -/
theorem exists_leads_of_at? (h : (keyCase.renameKeys depth value).at? path = some after) :
    ∃ source held, keyCase.Leads depth source value held ∧
      path = keyCase.renamedPath depth source ∧
      after = keyCase.renameKeys (depth - source.length) held := by
  induction depth generalizing value path with
  | zero =>
    rw [renameKeys_zero] at h
    exact ⟨path, after, .rest h, rfl, by rw [Nat.zero_sub, renameKeys_zero]⟩
  | succ depth ih =>
    cases path with
    | nil =>
      rw [at?_nil] at h
      exact ⟨[], value, .here, rfl, (Option.some.inj h).symm⟩
    | cons name path =>
      cases value with
      | object fields =>
        rw [renameKeys_object] at h
        obtain ⟨_, _, he, hg, hp⟩ := at?_cons_eq_some h
        cases he
        obtain ⟨key, inner, rfl, hl, rfl⟩ := get?_renamed_iff.mp hg
        obtain ⟨source, held, hs, rfl, rfl⟩ := ih hp
        refine ⟨key :: source, held, .field hl hs, rfl, ?_⟩
        rw [List.length_cons, Nat.add_sub_add_right]
      | null | bool _ | number _ | string _ | array _ => cases h

section Distinct

theorem isLast_iff (h : (fields.map fun field => keyCase.apply field.1).Nodup) :
    keyCase.IsLast fields key value ↔ fields.get? key = some value := by
  rw [Fields.get?, List.lookup_eq_some_iff]
  constructor
  · rintro ⟨before, after, rfl, -⟩
    refine ⟨before, after, rfl, fun field hf => bne_iff_ne.mpr fun he => ?_⟩
    rw [List.map_append, List.map_cons, List.nodup_append] at h
    exact h.2.2 _ (List.mem_map_of_mem hf) _ List.mem_cons_self (by rw [he])
  · rintro ⟨before, after, rfl, -⟩
    refine ⟨before, after, rfl, fun field hf he => ?_⟩
    rw [List.map_append, List.map_cons, List.nodup_append, List.nodup_cons] at h
    exact h.2.1.1 (List.mem_map.mpr ⟨field, hf, he⟩)

/-- Where no two fields take one name, a path can only lead to one value. -/
theorem leads_iff (h : keyCase.Distinct depth value) :
    keyCase.Leads depth path value held ↔ value.at? path = some held := by
  constructor
  · intro hl
    induction hl with
    | here => exact at?_nil _
    | field hl _ ih =>
      have hg := (isLast_iff h.1).mp hl
      rw [at?_object, hg, Option.bind_some, ih (h.2 _ (Fields.mem_of_get? hg))]
    | rest hp => exact hp
  · intro hp
    induction depth generalizing value path with
    | zero => exact .rest hp
    | succ depth ih =>
      cases path with
      | nil =>
        rw [at?_nil] at hp
        cases hp
        exact .here
      | cons key path =>
        obtain ⟨fields, inner, rfl, hg, hi⟩ := at?_cons_eq_some hp
        exact .field ((isLast_iff h.1).mpr hg) (ih (h.2 _ (Fields.mem_of_get? hg)) hi)

theorem unkeyed_renameKeys (h : keyCase.Distinct depth value) :
    unkeyed depth (keyCase.renameKeys depth value) = unkeyed depth value := by
  induction depth generalizing value with
  | zero => rw [renameKeys_zero]
  | succ depth ih =>
    cases value with
    | object fields =>
      rw [renameKeys_object, Fields.ofList_of_nodup (by rw [keys_renamed]; exact h.1), unkeyed,
        unkeyed, renamed, List.map_map]
      refine congrArg Json.object (List.map_congr_left fun field hf => ?_)
      exact congrArg (Prod.mk "") (ih (h.2 field hf))
    | null | bool _ | number _ | string _ | array _ => rfl

end Distinct

/-- A value that is no object, or that as many keys as `depth` lead to, is not renamed. -/
theorem renameKeys_eq_self (h : depth ≤ path.length ∨ held.isObject = false) :
    keyCase.renameKeys (depth - path.length) held = held := by
  rcases h with hd | ho
  · rw [Nat.sub_eq_zero_of_le hd, renameKeys_zero]
  · exact renameKeys_of_not_isObject ho

/-- A text is taken for a key, whatever the depth. Of any other value, nothing changes at depth
zero or where it is no object. What a path leads to is found again on the renamed path, the same if
it is no object or if no depth is left for it, and otherwise with the new names of its keys in their
order; nothing else is found on any path. Where no two fields take one name, these are all the paths
there are, and the value is as it was but for the keys of its first `depth` levels. -/
theorem conversion_stops_at_depth (keyCase : KeyCase) (depth : Nat) (value : Json) :
    (∀ text, value = .string text →
      keyCase.convert depth value = .string (keyCase.apply text)) ∧
    ((∀ text, value ≠ .string text) →
      (depth = 0 ∨ value.isObject = false → keyCase.convert depth value = value) ∧
      (∀ path held, keyCase.Leads depth path value held →
        depth ≤ path.length ∨ held.isObject = false →
          (keyCase.convert depth value).at? (keyCase.renamedPath depth path) = some held) ∧
      (∀ path fields, keyCase.Leads depth path value (.object fields) → path.length < depth →
        ∃ renamed, (keyCase.convert depth value).at? (keyCase.renamedPath depth path) =
            some (.object renamed) ∧
          renamed.map Prod.fst = (fields.map fun field => keyCase.apply field.1).eraseDups) ∧
      (∀ path after, (keyCase.convert depth value).at? path = some after →
        ∃ source held, keyCase.Leads depth source value held ∧
          path = keyCase.renamedPath depth source ∧ after.isObject = held.isObject ∧
          (depth ≤ source.length ∨ held.isObject = false → after = held)) ∧
      (keyCase.Distinct depth value →
        (∀ path held, keyCase.Leads depth path value held ↔ value.at? path = some held) ∧
        unkeyed depth (keyCase.convert depth value) = unkeyed depth value)) := by
  constructor
  · rintro text rfl
    rfl
  · intro hs
    rw [convert_of_ne_string hs]
    refine ⟨fun h => ?_, fun path held hl h => ?_, fun _ _ => keys_at?_renameKeys,
      fun path after hp => ?_, fun hd => ?_⟩
    · rcases h with rfl | h
      · exact renameKeys_zero keyCase value
      · exact renameKeys_of_not_isObject h
    · rw [at?_renameKeys_of_leads hl, renameKeys_eq_self h]
    · obtain ⟨source, held, hl, he, rfl⟩ := exists_leads_of_at? hp
      exact ⟨source, held, hl, he, isObject_renameKeys, renameKeys_eq_self⟩
    · exact ⟨fun path held => leads_iff hd, unkeyed_renameKeys hd⟩

/-- At depth one the keys of the inner object stay, and so do an array and a text. -/
theorem conversion_stops_at_depth_inner :
    let inner : Json := .object [("x_y", .array [.object [("c_d", .null)]])]
    let value : Json := .object [("a_b", inner), ("e_f", .string "g_h")]
    (∀ text, value ≠ .string text) ∧ camel.Distinct 1 value ∧
    camel.Leads 1 ["a_b", "x_y"] value (.array [.object [("c_d", .null)]]) ∧
    (camel.convert 1 value).at? ["aB", "x_y"] = some (.array [.object [("c_d", .null)]]) ∧
    (camel.convert 1 value).at? ["eF"] = some (.string "g_h") ∧
    unkeyed 1 (camel.convert 1 value) = unkeyed 1 value ∧
    snake.convert 2 (.array [value]) = .array [value] := by
  intro inner value
  have hs : ∀ text, value ≠ .string text := nofun
  have hd : camel.Distinct 1 value := ⟨by decide +kernel, fun _ _ => trivial⟩
  obtain ⟨-, hl, -, -, hp⟩ := (conversion_stops_at_depth camel 1 value).2 hs
  obtain ⟨hi, hu⟩ := hp hd
  have ha : camel.Leads 1 ["a_b", "x_y"] value (.array [.object [("c_d", .null)]]) :=
    (hi _ _).mpr rfl
  have he : camel.Leads 1 ["e_f"] value (.string "g_h") := (hi _ _).mpr rfl
  have hpa : camel.renamedPath 1 ["a_b", "x_y"] = ["aB", "x_y"] := by decide +kernel
  have hpe : camel.renamedPath 1 ["e_f"] = ["eF"] := by decide +kernel
  have hra := hl _ _ ha (.inl (by decide))
  have hre := hl _ _ he (.inr rfl)
  rw [hpa] at hra
  rw [hpe] at hre
  exact ⟨hs, hd, ha, hra, hre, hu,
    ((conversion_stops_at_depth snake 2 (.array [value])).2 nofun).1 (.inr rfl)⟩

/-- A text is converted also at depth zero, where every other value is left as it is. -/
theorem convert_zero_text :
    camel.convert 0 (.string "user_name") = .string "userName" ∧
      ¬ ∀ value, camel.convert 0 value = value := by
  have hc : camel.convert 0 (.string "user_name") = .string "userName" := by cbv
  refine ⟨hc, fun h => ?_⟩
  have he := hc.symm.trans (h (.string "user_name"))
  simp at he

end JsonSelect.KeyCase
