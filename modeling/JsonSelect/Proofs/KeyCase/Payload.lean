import JsonSelect.Proofs.Json.Fields
import JsonSelect.Proofs.KeyCase.Key

/-! Payloads whose keys are renamed. After one renaming to camel case, snake case and back changes
nothing, also where keys have become equal. -/
namespace JsonSelect.KeyCase

open Text

variable {key : String} {depth : Nat} {value : Json} {fields : Fields} {field : String × Json}
  {keyCase : KeyCase}

/-- The keys are ASCII on that many levels of objects. -/
def AsciiKeys : Nat → Json → Prop
  | depth + 1, .object fields => ∀ field ∈ fields, IsAscii field.1.toList ∧ AsciiKeys depth field.2
  | _, _ => True

/-- All that is renamed is ASCII. -/
def AsciiPayload (depth : Nat) : Json → Prop
  | .string key => IsAscii key.toList
  | value => AsciiKeys depth value

instance decidableAsciiKeys : ∀ depth value, Decidable (AsciiKeys depth value)
  | 0, _ => .isTrue trivial
  | depth + 1, .object fields =>
    have (field : String × Json) := decidableAsciiKeys depth field.2
    List.decidableBAll _ fields
  | _ + 1, .null | _ + 1, .bool _ | _ + 1, .number _ | _ + 1, .string _ | _ + 1, .array _ =>
    .isTrue trivial

instance (depth : Nat) : ∀ value, Decidable (AsciiPayload depth value)
  | .string key => inferInstanceAs (Decidable (IsAscii key.toList))
  | .object fields => inferInstanceAs (Decidable (AsciiKeys depth (.object fields)))
  | .null | .bool _ | .number _ | .array _ => inferInstanceAs (Decidable (AsciiKeys depth _))

/-- The fields with their new keys, before equal keys are merged. -/
def renamed (keyCase : KeyCase) (depth : Nat) (fields : Fields) : Fields :=
  fields.map fun field => (keyCase.apply field.1, keyCase.renameKeys depth field.2)

theorem renameKeys_object (keyCase : KeyCase) (depth : Nat) (fields : Fields) :
    keyCase.renameKeys (depth + 1) (.object fields) =
      .object (Fields.ofList (keyCase.renamed depth fields)) := rfl

theorem apply_camel_snake_camel (h : IsAscii key.toList) :
    camel.apply (snake.apply (camel.apply key)) = camel.apply key := by
  simp only [apply, String.toList_ofList]
  rw [camelCased_snakeCased (isCamel_camelCased h)]

section Undoing

variable {first second : KeyCase}
  (hk : ∀ field ∈ fields, second.apply (first.apply field.1) = field.1)

include hk

theorem keys_renamed_renamed :
    ((first.renamed depth fields).map Prod.fst).map second.apply = fields.map Prod.fst := by
  rw [renamed, List.map_map, List.map_map]
  exact List.map_congr_left hk

/-- Where every field gets its own key and value back, no two keys become equal in between. -/
theorem ofList_renamed_renamed (hn : (fields.map Prod.fst).Nodup)
    (hv : ∀ field ∈ fields, second.renameKeys depth (first.renameKeys depth field.2) = field.2) :
    Fields.ofList (second.renamed depth (Fields.ofList (first.renamed depth fields))) = fields := by
  have hd : ((first.renamed depth fields).map Prod.fst).Nodup := by
    refine List.Nodup.of_map second.apply ?_
    rwa [keys_renamed_renamed hk]
  have hr : second.renamed depth (first.renamed depth fields) = fields := by
    rw [renamed, renamed, List.map_map]
    exact (List.map_congr_left fun field hf => Prod.ext (hk field hf) (hv field hf)).trans
      (List.map_id fields)
  rw [Fields.ofList_of_nodup hd, hr, Fields.ofList_of_nodup hn]

end Undoing

/-- What camel case leaves of an object has no two equal keys, and each of its keys is one that
snake case brings back. -/
theorem renameKeys_camel_snake_camel (h : AsciiKeys depth value) :
    camel.renameKeys depth (snake.renameKeys depth (camel.renameKeys depth value)) =
      camel.renameKeys depth value := by
  induction depth generalizing value with
  | zero => rfl
  | succ depth ih =>
    cases value with
    | object fields =>
      have hs : ∀ field ∈ Fields.ofList (camel.renamed depth fields), ∃ source ∈ fields,
          (camel.apply source.1, camel.renameKeys depth source.2) = field :=
        fun field hf => List.mem_map.mp (Fields.mem_of_mem_ofList hf)
      rw [renameKeys_object, renameKeys_object, renameKeys_object, ofList_renamed_renamed ?_
        (Fields.nodup_ofList _) ?_]
      · intro field hf
        obtain ⟨source, hm, rfl⟩ := hs field hf
        exact apply_camel_snake_camel (h source hm).1
      · intro field hf
        obtain ⟨source, hm, rfl⟩ := hs field hf
        exact ih (h source hm).2
    | null | bool _ | number _ | string _ | array _ => rfl

/-- Snake case loses nothing of what has been brought to camel case. -/
theorem convert_camel_snake_camel (depth : Nat) (value : Json) (h : AsciiPayload depth value) :
    camel.convert depth (snake.convert depth (camel.convert depth value)) =
      camel.convert depth value := by
  cases value with
  | string key => exact congrArg Json.string (apply_camel_snake_camel h)
  | object fields =>
    -- A renamed object is an object, so it is not taken for a key.
    cases depth with
    | zero => rfl
    | succ depth => exact renameKeys_camel_snake_camel h
  | null | bool _ | number _ | array _ => cases depth <;> rfl

/-- Three keys are one in camel case, and two more below the last of them. -/
theorem convert_camel_snake_camel_merged :
    let payload : Json := .object [("user_id", .null), ("HTTP  code2", .bool true),
      ("user-id", .null), ("userId", .object [("a_b", .null), ("aB", .bool false)])]
    let merged : Json := .object [("userId", .object [("aB", .bool false)]),
      ("hTTPCode2", .bool true)]
    AsciiPayload 2 payload ∧ camel.convert 2 payload = merged ∧
      camel.convert 2 (snake.convert 2 merged) = merged := by
  intro payload merged
  have ha : AsciiPayload 2 payload := by decide +kernel
  have hm : camel.convert 2 payload = merged := by cbv
  have h := convert_camel_snake_camel 2 payload ha
  rw [hm] at h
  exact ⟨ha, hm, h⟩

end JsonSelect.KeyCase
