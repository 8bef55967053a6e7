import JsonSelect.Proofs.KeyCase.Depth
import JsonSelect.Proofs.KeyCase.Merging
import JsonSelect.Proofs.Text.Case
import JsonSelect.Proofs.Where.Language

/-! Condition objects whose fields get new names. Bringing the outermost keys to snake case changes
the names of the fields of a filter and nothing else in it. -/
namespace JsonSelect

namespace KeyCase

open Text

variable {key word : List Char}

theorem underscore_mem_separated {c : Char} (hc : c ∈ key) (hu : c.isUpper = true) :
    '_' ∈ separated key := by
  induction key with
  | nil => cases hc
  | cons first rest ih =>
    rw [separated]
    split
    next => exact List.mem_cons_self
    next hf =>
      rcases List.mem_cons.mp hc with rfl | hr
      · exact absurd hu hf
      · exact List.mem_cons_of_mem first (ih hr)

/-- A word that is its own snake case is that of no other key, if it starts with no small letter and
has neither an underscore nor a k in it. -/
theorem snakeCased_eq_iff
    (hw : ∀ c ∈ word, isAscii c = true ∧ c ≠ 'k' ∧ c ≠ '_' ∧ c.isUpper = false)
    (hh : ∀ c ∈ word.head?, c.isLower = false) : snakeCased key = word ↔ key = word := by
  constructor
  · rintro rfl
    cases key with
    | nil => rfl
    | cons first rest =>
      rw [snakeCased] at hw hh ⊢
      have ht := lowerText_eq_of_isAscii fun d hd => ⟨(hw d hd).1, (hw d hd).2.1⟩
      rw [ht, List.map_cons] at hw hh ⊢
      have hr : ∀ c ∈ rest, c.isUpper = false := by
        intro c hc
        by_contra hu
        have hm := underscore_mem_separated hc (by simpa using hu)
        exact (hw '_' (List.mem_cons_of_mem _ (List.mem_map_of_mem hm))).2.2.1 rfl
      have hf : first.isUpper = false := by
        by_contra hu
        have hu : first.isUpper = true := by simpa using hu
        have hl : first.toLower.isLower = true := by simp [Char.isAlpha, hu]
        rw [hh _ rfl] at hl
        cases hl
      rw [separated_of_isUpper hr, map_toLower_of_isUpper hr,
        Char.toLower_eq_of_not_isUpper (by simp [hf])]
  · rintro rfl
    exact snakeCased_of_isUpper (fun c hc => (hw c hc).1) fun c hc => (hw c hc).2.2.2

theorem snake_apply_eq_key_iff {name : String} (connective : Connective) :
    snake.apply name = connective.key ↔ name = connective.key := by
  rw [← String.toList_inj, ← String.toList_inj, apply, String.toList_ofList]
  refine snakeCased_eq_iff ?_ ?_ <;> cases connective <;> simp [Connective.key, isAscii]

/-- A field stays a field, and a connective a connective. -/
theorem ofKey?_snake (name : String) :
    Connective.ofKey? (snake.apply name) = Connective.ofKey? name := by
  refine Option.ext fun connective => ?_
  rw [Connective.ofKey?_eq_some_iff, Connective.ofKey?_eq_some_iff, snake_apply_eq_key_iff]

end KeyCase

/-- A field under its new name; no other entry has one. -/
def Entry.renamed (rename : String → String) : Entry → Entry
  | .field name requirement => .field (rename name) requirement
  | entry => entry

namespace Filter

open Outcome

variable {policy : UnknownOperators} {name other token operator key : String} {value : Json}
  {rename : String → String}

section Fields

/-- Errors name the field, but their kind does not depend on it. -/
theorem mapError_readScalar_field (operator name other : String) (value : Json) :
    (readScalar operator name value).mapError Error.kind =
      (readScalar operator other value).mapError Error.kind := by
  unfold readScalar
  split <;> rfl

theorem mapError_readScalars_field (operator name other : String) (items : List Json) :
    (readScalars operator name items).mapError Error.kind =
      (readScalars operator other items).mapError Error.kind := by
  induction items with
  | nil => rfl
  | cons item rest ih =>
    simp only [readScalars]
    exact Error.mapError_bind (mapError_readScalar_field operator name other item) fun _ =>
      Error.mapError_bind ih fun _ => rfl

theorem mapError_readMember_field (negated : Bool) (token name other : String) (operand : Json) :
    (readMember negated token name operand).mapError Error.kind =
      (readMember negated token other operand).mapError Error.kind := by
  cases operand with
  | array items =>
    simp only [readMember]
    exact Error.mapError_bind (mapError_readScalars_field token name other items) fun _ => rfl
  | object _ | null | bool _ | number _ | string _ => rfl

theorem alike_passOver (policy : UnknownOperators) (name other token : String) :
    AnswersAlike (passOver policy name token) (passOver policy other token) := by
  cases policy <;> rfl

mutual

-- By induction on the JSON: whatever stands under a field is read alike under any other name.
theorem alike_readField : ∀ value : Json,
    AnswersAlike (readField policy name value) (readField policy other value)
  | .object operators => by
    simp only [readField]
    exact (alike_readTests operators).map
  | .array _ | .null | .bool _ | .number _ | .string _ => rfl

theorem alike_readFields : ∀ items : List Json,
    AnswersAlike (readFields policy name items) (readFields policy other items)
  | [] => .refl _
  | item :: rest => by
    simp only [readFields]
    exact (alike_readField item).both List.cons (alike_readFields rest)

theorem alike_readTests : ∀ operators : List (String × Json),
    AnswersAlike (readTests policy name operators) (readTests policy other operators)
  | [] => .refl _
  | (token, operand) :: rest => by
    cases ho : Operator.ofToken? token with
    | none =>
      simp only [readTests, ho]
      exact (alike_passOver policy name other token).bind fun _ => alike_readTests rest
    | some operator =>
      rw [readTests_cons ho, readTests_cons ho]
      refine .both List.cons ?_ (alike_readTests rest)
      cases operator with
      | compare comparison =>
        exact AnswersAlike.map (x := ofExcept _) (mapError_readScalar_field _ name other operand)
      | like =>
        exact AnswersAlike.map (x := ofExcept _) (mapError_readScalar_field _ name other operand)
      | member negated => exact mapError_readMember_field negated token name other operand
      | group connective =>
        simp only [readTest]
        exact (alike_readItems operand).map

theorem alike_readItems : ∀ operand : Json,
    AnswersAlike (readItems policy name operand) (readItems policy other operand)
  | .array items => by
    simp only [readItems]
    exact alike_readFields items
  | .object operators => by
    simp only [readItems]
    exact (alike_readTests operators).bind fun _ => .refl _
  | .null | .bool _ | .number _ | .string _ => rfl

end

end Fields

/-- A group has no name. -/
theorem renamed_readGroup (rename : String → String) (connective : Connective) (value : Json) :
    Entry.renamed rename <$> readGroup policy connective value =
      readGroup policy connective value := by
  cases value with
  | object fields => rw [readGroup, ← comp_map]; rfl
  | array items => rw [readGroup, ← comp_map]; rfl
  | null | bool _ | number _ | string _ => rfl

theorem alike_readEntry (hk : Connective.ofKey? (rename key) = Connective.ofKey? key) :
    AnswersAlike (readEntry policy (rename key) value)
      (Entry.renamed rename <$> readEntry policy key value) := by
  rw [readEntry, readEntry, hk]
  cases Connective.ofKey? key with
  | some connective =>
    simp only [renamed_readGroup]
    exact .refl _
  | none =>
    simp only [← comp_map]
    exact (alike_readField value).map

/-- Where a new key is a connective exactly if the old one is it, all that changes are the names of
the outermost fields. -/
theorem alike_read (hk : ∀ key, Connective.ofKey? (rename key) = Connective.ofKey? key) :
    ∀ conditions : Fields, AnswersAlike (read policy (conditions.map (Prod.map rename id)))
      (List.map (Entry.renamed rename) <$> read policy conditions)
  | [] => .refl _
  | (key, value) :: rest => by
    have hr := alike_read hk rest
    have hb : List.map (Entry.renamed rename) <$> read policy ((key, value) :: rest) =
        Entry.renamed rename <$> readEntry policy key value >>= fun entry =>
          List.map (Entry.renamed rename) <$> read policy rest >>= fun entries =>
            pure (entry :: entries) := by
      simp [read_cons, map_bind, bind_map_left]
    rw [hb, List.map_cons, Prod.map_apply, id_eq, read_cons]
    exact (alike_readEntry (hk key)).both List.cons hr

/-- With snake case one level down, and no two keys made equal by it, a condition object is read as
the filter it was with the names of its outermost fields in snake case, or is not read either. -/
theorem snake_cased_conditions_read (policy : UnknownOperators) {conditions : Fields}
    (h : (conditions.map fun field => KeyCase.snake.apply field.1).Nodup) :
    ∃ renamed : Fields,
      KeyCase.snake.convert 1 (.object conditions) = .object renamed ∧
      ((∃ filter, (read policy renamed).result = .ok filter) ↔
        ∃ filter, (read policy conditions).result = .ok filter) ∧
      ∀ filter, (read policy conditions).result = .ok filter →
        (read policy renamed).result = .ok (filter.map (Entry.renamed KeyCase.snake.apply)) := by
  have hr : ∀ filter,
      (read policy (conditions.map (Prod.map KeyCase.snake.apply id))).result = .ok filter ↔
        ∃ source, (read policy conditions).result = .ok source ∧
          source.map (Entry.renamed KeyCase.snake.apply) = filter := by
    intro filter
    rw [(alike_read KeyCase.ofKey?_snake conditions).result_eq_ok_iff, result_map,
      Error.map_eq_ok]
  refine ⟨_, KeyCase.convert_one h, ?_, fun filter hf => (hr _).mpr ⟨filter, hf, rfl⟩⟩
  constructor
  · rintro ⟨_, hf⟩
    obtain ⟨filter, hs, -⟩ := (hr _).mp hf
    exact ⟨filter, hs⟩
  · rintro ⟨filter, hs⟩
    exact ⟨_, (hr _).mpr ⟨filter, hs, rfl⟩⟩

/-- Capitals in a field, in an operator map and below a connective, and a key that only looks like a
connective. -/
theorem snake_cased_conditions_read_mixed :
    let inner : Fields := [("bC", .object [("$GT", .ofInt 1)])]
    let conditions : Fields := [("userId", .object [("$IN", .array [.ofInt 7]), ("dE", .null)]),
      ("$or", .array [.object inner]), ("$And", .null)]
    let renamed : Fields := [("user_id", .object [("$IN", .array [.ofInt 7]), ("dE", .null)]),
      ("$or", .array [.object inner]), ("$_and", .null)]
    let filter : Filter := [
      .field "userId" (.tests [.member [.number (.integer 7)] false]),
      .each .or [[.field "bC" (.tests [.compare .gt (.number (.integer 1))])]],
      .field "$And" (.equals .null)]
    (conditions.map fun field => KeyCase.snake.apply field.1).Nodup ∧
    KeyCase.snake.convert 1 (.object conditions) = .object renamed ∧
    (read .skip conditions).result = .ok filter ∧
    (read .skip renamed).result = .ok [
      .field "user_id" (.tests [.member [.number (.integer 7)] false]),
      .each .or [[.field "bC" (.tests [.compare .gt (.number (.integer 1))])]],
      .field "$_and" (.equals .null)] ∧
    ¬ ∃ filter, (read .reject renamed).result = .ok filter := by
  intro inner conditions renamed filter
  have hn : (conditions.map fun field => KeyCase.snake.apply field.1).Nodup := by decide +kernel
  have hc : KeyCase.snake.convert 1 (.object conditions) = .object renamed := by cbv
  have hf : (read .skip conditions).result = .ok filter := by cbv
  obtain ⟨_, hs, -, hr⟩ := snake_cased_conditions_read .skip hn
  obtain ⟨_, hs', hi, -⟩ := snake_cased_conditions_read .reject hn
  cases hc.symm.trans hs
  cases hc.symm.trans hs'
  refine ⟨hn, hc, hf, (hr filter hf).trans (by cbv), fun he => ?_⟩
  obtain ⟨filter, he⟩ := hi.mp he
  have hu : (read .reject conditions).result = .error (.unknownOperator "dE") := by cbv
  rw [hu] at he
  cases he

end Filter
end JsonSelect
