import JsonSelect.Proofs.KeyCase.Payload

/-! What renaming makes of one object and of the rows of a table: which keys are there, in which
order, and whose value each of them has. -/
namespace JsonSelect.KeyCase

variable {keyCase : KeyCase} {depth : Nat} {fields : Fields} {name key : String} {value held : Json}

/-- A field of the object, and no later one takes the same name. -/
def IsLast (keyCase : KeyCase) (fields : Fields) (key : String) (value : Json) : Prop :=
  ∃ before after, fields = before ++ (key, value) :: after ∧
    ∀ field ∈ after, keyCase.apply field.1 ≠ keyCase.apply key

/-- Of what an object holds, the objects are converted; a text is no key there. -/
def convertHeld (keyCase : KeyCase) (depth : Nat) : Json → Json
  | .object fields => keyCase.convert depth (.object fields)
  | value => value

theorem renameKeys_eq (keyCase : KeyCase) (depth : Nat) (value : Json) :
    keyCase.renameKeys depth value = keyCase.convertHeld depth value := by
  cases value with
  | object fields => rfl
  | null | bool _ | number _ | string _ | array _ => cases depth <;> rfl

theorem renameKeys_zero (keyCase : KeyCase) (value : Json) :
    keyCase.renameKeys 0 value = value := by
  cases value <;> rfl

theorem keys_renamed (keyCase : KeyCase) (depth : Nat) (fields : Fields) :
    (keyCase.renamed depth fields).map Prod.fst =
      fields.map fun field => keyCase.apply field.1 := by
  rw [renamed, List.map_map]
  rfl

theorem get?_renamed_iff :
    (Fields.ofList (keyCase.renamed depth fields)).get? name = some held ↔
      ∃ key value, keyCase.apply key = name ∧ keyCase.IsLast fields key value ∧
        held = keyCase.renameKeys depth value := by
  rw [Fields.get?_ofList_eq_some_iff]
  constructor
  · rintro ⟨before, after, he, ha⟩
    obtain ⟨before, rest, rfl, -, hr⟩ := List.map_eq_append_iff.mp he
    obtain ⟨⟨key, value⟩, after, rfl, hf, rfl⟩ := List.map_eq_cons_iff.mp hr
    obtain ⟨rfl, rfl⟩ := Prod.mk.inj hf
    refine ⟨key, value, rfl, ⟨before, after, rfl, fun field hm hk => ha ?_⟩, rfl⟩
    exact List.mem_map.mpr ⟨_, List.mem_map_of_mem hm, hk⟩
  · rintro ⟨key, value, rfl, ⟨before, after, rfl, ha⟩, rfl⟩
    refine ⟨keyCase.renamed depth before, keyCase.renamed depth after, ?_, ?_⟩
    · rw [renamed, List.map_append, List.map_cons]
      rfl
    · rw [keys_renamed]
      intro hm
      obtain ⟨field, hf, hk⟩ := List.mem_map.mp hm
      exact ha field hf hk

theorem get?_renamed_of_isLast (h : keyCase.IsLast fields key value) :
    (Fields.ofList (keyCase.renamed depth fields)).get? (keyCase.apply key) =
      some (keyCase.renameKeys depth value) :=
  get?_renamed_iff.mpr ⟨key, value, rfl, h, rfl⟩

/-- One level of an object without fields that take one name. -/
theorem convert_one (h : (fields.map fun field => keyCase.apply field.1).Nodup) :
    keyCase.convert 1 (.object fields) = .object (fields.map (Prod.map keyCase.apply id)) := by
  have hv : keyCase.renamed 0 fields = fields.map (Prod.map keyCase.apply id) :=
    List.map_congr_left fun field _ => Prod.ext rfl (keyCase.renameKeys_zero field.2)
  have hn : ((keyCase.renamed 0 fields).map Prod.fst).Nodup := by rwa [keys_renamed]
  refine (keyCase.renameKeys_object 0 fields).trans ?_
  rw [Fields.ofList_of_nodup hn, hv]

theorem convertRows_eq (keyCase : KeyCase) (depth : Nat) (rows : List Fields) :
    keyCase.convertRows depth rows = rows.map fun row => keyCase.convert depth (.object row) := by
  cases depth with
  | zero => rfl
  | succ depth =>
    rw [convertRows, renameRows, List.map_map]
    exact List.map_congr_left fun row _ => (keyCase.renameKeys_object depth row).symm

/-- An object gets the new names of its keys, each once and where it comes up first, and under each
the converted value of the last field that takes the name. Where no two fields take one name, every
field is there and in its place. The rows of a table are converted as the objects they are. -/
theorem object_renamed_exactly (keyCase : KeyCase) :
    (∀ depth fields, ∃ renamed : Fields,
      keyCase.convert (depth + 1) (.object fields) = .object renamed ∧
      renamed.map Prod.fst = (fields.map fun field => keyCase.apply field.1).eraseDups ∧
      (renamed.map Prod.fst).Nodup ∧
      (∀ name held, renamed.get? name = some held ↔
        ∃ key value, keyCase.apply key = name ∧ keyCase.IsLast fields key value ∧
          held = keyCase.convertHeld depth value) ∧
      ((fields.map fun field => keyCase.apply field.1).Nodup →
        renamed = fields.map fun field =>
          (keyCase.apply field.1, keyCase.convertHeld depth field.2))) ∧
    ∀ depth rows, keyCase.convertRows depth rows =
      rows.map fun row => keyCase.convert depth (.object row) := by
  refine ⟨fun depth fields => ?_, keyCase.convertRows_eq⟩
  refine ⟨_, keyCase.renameKeys_object depth fields, ?_, Fields.nodup_ofList _, ?_, fun hn => ?_⟩
  · rw [Fields.keys_ofList, keys_renamed]
  · intro name held
    simp only [← renameKeys_eq]
    exact get?_renamed_iff
  · rw [Fields.ofList_of_nodup (by rwa [keys_renamed])]
    simp only [← renameKeys_eq]
    rfl

/-- Two fields become one, with the place of the first and the value of the last; then an object
without such fields, and rows at depth zero. -/
theorem object_renamed_exactly_merged :
    let fields : Fields := [("user_id", .null), ("z_z", .string "a_b"),
      ("user-id", .object [("x_y", .null)])]
    let others : Fields := [("b_b", .null), ("a_a", .object [("x_y", .null)])]
    (∃ renamed : Fields, camel.convert 2 (.object fields) = .object renamed ∧
      renamed.map Prod.fst = ["userId", "zZ"] ∧
      renamed.get? "userId" = some (.object [("xY", .null)])) ∧
    (others.map fun field => camel.apply field.1).Nodup ∧
    camel.convert 1 (.object others) = .object [("bB", .null), ("aA", .object [("x_y", .null)])] ∧
    camel.convertRows 0 [fields, others] = [.object fields, .object others] := by
  intro fields others
  obtain ⟨hf, hr⟩ := object_renamed_exactly camel
  obtain ⟨renamed, hc, hk, -, hg, -⟩ := hf 1 fields
  obtain ⟨_, ho, -, -, -, hn⟩ := hf 0 others
  have hd : (others.map fun field => camel.apply field.1).Nodup := by decide +kernel
  have hu : camel.apply "user-id" = "userId" := by decide +kernel
  have hl : camel.IsLast fields "user-id" (.object [("x_y", .null)]) :=
    ⟨[("user_id", .null), ("z_z", .string "a_b")], [], rfl, List.forall_mem_nil _⟩
  refine ⟨⟨renamed, hc, hk.trans (by decide +kernel), (hg _ _).mpr ⟨_, _, hu, hl, ?_⟩⟩, hd, ?_,
    hr 0 [fields, others]⟩
  · cbv
  · rw [ho, hn hd]
    cbv

end JsonSelect.KeyCase
