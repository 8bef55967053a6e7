import JsonSelect.Proofs.Decision
import JsonSelect.Proofs.Where.Leaves

/-! The language of condition objects. -/
namespace JsonSelect

/-- Null, a truth value, a number or a text. -/
def Json.isScalar : Json → Bool
  | .array _ | .object _ => false
  | _ => true

/-- The token is a spelling of the operator, whatever the case of its ASCII letters. -/
def Operator.Spells (token : String) (operator : Operator) : Prop :=
  (String.ofList (token.toList.map Char.toLower), operator) ∈ spellings

instance (token : String) (operator : Operator) : Decidable (Operator.Spells token operator) :=
  inferInstanceAs (Decidable (_ ∈ Operator.spellings))

mutual

/-- A field is asked for a scalar, or by a map of operators. -/
inductive IsRequirement : Json → Prop where
  | scalar {value : Json} (h : value.isScalar = true) : IsRequirement value
  | tests {operators : Fields} (h : ∀ entry ∈ operators, IsTest entry.1 entry.2) :
    IsRequirement (.object operators)

/-- A token with its operand. What stands under an unknown token is of no account. -/
inductive IsTest : String → Json → Prop where
  | known {token : String} {operator : Operator} {operand : Json}
    (hs : Operator.Spells token operator) (h : Takes operator operand) : IsTest token operand
  | unknown {token : String} {operand : Json} (h : ∀ operator, ¬ Operator.Spells token operator) :
    IsTest token operand

inductive Takes : Operator → Json → Prop where
  | compare {comparison : Comparison} {operand : Json} (h : operand.isScalar = true) :
    Takes (.compare comparison) operand
  | like {operand : Json} (h : operand.isScalar = true) : Takes .like operand
  | member {negated : Bool} {items : List Json} (h : ∀ item ∈ items, item.isScalar = true) :
    Takes (.member negated) (.array items)
  | group {connective : Connective} {operand : Json} (h : IsGroup operand) :
    Takes (.group connective) operand

/-- A group of one field holds a single requirement or a list of them. -/
inductive IsGroup : Json → Prop where
  | one {operand : Json} (h : IsRequirement operand) : IsGroup operand
  | list {items : List Json} (h : ∀ item ∈ items, IsRequirement item) : IsGroup (.array items)

end

mutual

inductive IsTree : Fields → Prop where
  | mk {fields : Fields} (h : ∀ entry ∈ fields, IsEntry entry.1 entry.2) : IsTree fields

/-- A connective joins the entries of a tree or the trees of a list. Every other key is a field. -/
inductive IsEntry : String → Json → Prop where
  | nested (connective : Connective) {fields : Fields} (h : IsTree fields) :
    IsEntry connective.key (.object fields)
  | each (connective : Connective) {trees : List Fields} (h : ∀ fields ∈ trees, IsTree fields) :
    IsEntry connective.key (.array (trees.map .object))
  | field {key : String} {value : Json} (hk : ∀ connective : Connective, key ≠ connective.key)
    (h : IsRequirement value) : IsEntry key value

end

theorem Connective.ofKey?_eq_some_iff {key : String} {connective : Connective} :
    ofKey? key = some connective ↔ key = connective.key := by
  constructor
  · intro h
    unfold ofKey? at h
    split at h
    next hk =>
      cases h
      exact hk
    · split at h
      next hk =>
        cases h
        exact hk
      · cases h
  · rintro rfl
    exact ofKey?_key connective

theorem Operator.ofToken?_eq_some_iff {token : String} {operator : Operator} :
    ofToken? token = some operator ↔ Spells token operator := by
  -- no spelling stands for two operators
  have hl : ∀ entry ∈ spellings, spellings.lookup entry.1 = some entry.2 := by decide
  constructor
  · intro h
    obtain ⟨before, after, he, _⟩ := List.lookup_eq_some_iff.mp h
    rw [Spells, he]
    exact List.mem_append_right _ List.mem_cons_self
  · intro h
    exact hl _ h

theorem Operator.ofToken?_eq_none_iff {token : String} :
    ofToken? token = none ↔ ∀ operator, ¬ Spells token operator := by
  simp only [← ofToken?_eq_some_iff, Option.eq_none_iff_forall_ne_some]

/-- Success exactly where `p` holds, and elsewhere an error of the kind for conditions. -/
def Accepts {α : Type} (x : Except Error α) (p : Prop) : Prop :=
  match x with
  | .ok _ => p
  | .error error => ¬ p ∧ error.kind = .condition

namespace Accepts

variable {α β γ : Type} {x : Except Error α} {y : Except Error β} {p q : Prop} {error : Error}

theorem decides (h : Accepts x p) : Decides x p (·.kind = .condition) := h

theorem fail (h : ¬ p) (hk : error.kind = .condition) : Accepts (.error error : Except Error α) p :=
  ⟨h, hk⟩

theorem congr (h : Accepts x p) (hpq : p ↔ q) : Accepts x q := h.decides.congr hpq

theorem map {f : α → β} (h : Accepts x p) : Accepts (f <$> x) p := h.decides.map

theorem bind_ok {f : α → β} (h : Accepts x p) : Accepts (x >>= fun a => .ok (f a)) p :=
  h.decides.bind_ok fun _ => ⟨_, rfl⟩

theorem bind {f : α → Except Error β} (h : Accepts x p) (hf : ∀ a, x = .ok a → Accepts (f a) q) :
    Accepts (x >>= f) (p ∧ q) :=
  h.decides.andThen fun a hx => (hf a hx).decides

/-- A step whose answer is put together with that of the steps after it. -/
theorem both {f : α → β → γ} (h : Accepts x p) (hm : Accepts y q) :
    Accepts (x >>= fun a => y >>= fun b => .ok (f a b)) (p ∧ q) :=
  h.decides.both hm.decides

theorem exists_ok_iff (h : Accepts x p) : (∃ a, x = .ok a) ↔ p := h.decides.exists_ok_iff

theorem exists_error_iff (h : Accepts x p) : (∃ error, x = .error error) ↔ ¬ p :=
  h.decides.exists_error_iff

theorem kind_eq (h : Accepts x p) (hx : x = .error error) : error.kind = .condition :=
  h.decides.of_error hx

end Accepts

section Inversion

variable {token key : String} {operator : Operator} {operand value : Json} {items : List Json}
  {operators fields rest : Fields} {entry : String × Json} {connective : Connective}

theorem isRequirement_object :
    IsRequirement (.object operators) ↔ ∀ entry ∈ operators, IsTest entry.1 entry.2 := by
  refine ⟨fun h => ?_, .tests⟩
  cases h with
  | scalar h => cases h
  | tests h => exact h

theorem not_isRequirement_array : ¬ IsRequirement (.array items) := by
  intro h
  cases h with
  | scalar h => cases h

theorem isTest_of_unknown (h : Operator.ofToken? token = none) : IsTest token operand :=
  .unknown (Operator.ofToken?_eq_none_iff.mp h)

theorem isTest_iff_takes (h : Operator.ofToken? token = some operator) :
    IsTest token operand ↔ Takes operator operand := by
  have hs := Operator.ofToken?_eq_some_iff.mp h
  refine ⟨fun ht => ?_, .known hs⟩
  cases ht with
  | known ho ht =>
    have he := h.symm.trans (Operator.ofToken?_eq_some_iff.mpr ho)
    cases he
    exact ht
  | unknown hu => exact absurd hs (hu operator)

theorem takes_compare {comparison : Comparison} :
    Takes (.compare comparison) operand ↔ operand.isScalar = true := by
  refine ⟨fun h => ?_, .compare⟩
  cases h with
  | compare h => exact h

theorem takes_like : Takes .like operand ↔ operand.isScalar = true := by
  refine ⟨fun h => ?_, .like⟩
  cases h with
  | like h => exact h

theorem takes_member {negated : Bool} :
    Takes (.member negated) (.array items) ↔ ∀ item ∈ items, item.isScalar = true := by
  refine ⟨fun h => ?_, .member⟩
  cases h with
  | member h => exact h

theorem takes_group : Takes (.group connective) operand ↔ IsGroup operand := by
  refine ⟨fun h => ?_, .group⟩
  cases h with
  | group h => exact h

theorem isGroup_array : IsGroup (.array items) ↔ ∀ item ∈ items, IsRequirement item := by
  refine ⟨fun h => ?_, .list⟩
  cases h with
  | one h => exact absurd h not_isRequirement_array
  | list h => exact h

theorem isGroup_object :
    IsGroup (.object operators) ↔ ∀ entry ∈ operators, IsTest entry.1 entry.2 := by
  rw [← isRequirement_object]
  refine ⟨fun h => ?_, .one⟩
  cases h with
  | one h => exact h

theorem isTree_iff : IsTree fields ↔ ∀ entry ∈ fields, IsEntry entry.1 entry.2 := by
  refine ⟨fun h => ?_, .mk⟩
  cases h with
  | mk h => exact h

theorem isTree_cons : IsTree (entry :: rest) ↔ IsEntry entry.1 entry.2 ∧ IsTree rest := by
  rw [isTree_iff, isTree_iff, List.forall_mem_cons]

/-- The items are trees. -/
def AreTrees (items : List Json) : Prop :=
  ∃ trees : List Fields, items = trees.map .object ∧ ∀ fields ∈ trees, IsTree fields

theorem areTrees_nil : AreTrees [] := ⟨[], rfl, by simp⟩

theorem areTrees_cons : AreTrees (.object fields :: items) ↔ IsTree fields ∧ AreTrees items := by
  constructor
  · rintro ⟨trees, he, ht⟩
    cases trees with
    | nil => cases he
    | cons tree trees =>
      cases he
      obtain ⟨hf, hr⟩ := List.forall_mem_cons.mp ht
      exact ⟨hf, trees, rfl, hr⟩
  · rintro ⟨hf, trees, rfl, ht⟩
    exact ⟨fields :: trees, rfl, List.forall_mem_cons.mpr ⟨hf, ht⟩⟩

theorem exists_object_of_areTrees (h : AreTrees (value :: items)) :
    ∃ fields, value = .object fields := by
  obtain ⟨trees, he, _⟩ := h
  cases trees with
  | nil => cases he
  | cons tree trees =>
    cases he
    exact ⟨tree, rfl⟩

theorem isEntry_field (hk : Connective.ofKey? key = none) :
    IsEntry key value ↔ IsRequirement value := by
  have hne : ∀ connective : Connective, key ≠ connective.key := by
    rintro connective rfl
    simp at hk
  refine ⟨fun h => ?_, .field hne⟩
  cases h with
  | nested connective h => exact absurd rfl (hne connective)
  | each connective h => exact absurd rfl (hne connective)
  | field _ h => exact h

theorem isEntry_object : IsEntry connective.key (.object fields) ↔ IsTree fields := by
  refine ⟨fun h => ?_, .nested connective⟩
  generalize hk : connective.key = key at h
  cases h with
  | nested _ h => exact h
  | field hne _ => exact absurd hk.symm (hne connective)

theorem isEntry_array : IsEntry connective.key (.array items) ↔ AreTrees items := by
  constructor
  · intro h
    generalize hk : connective.key = key at h
    cases h with
    | each _ h => exact ⟨_, rfl, h⟩
    | field hne _ => exact absurd hk.symm (hne connective)
  · rintro ⟨trees, rfl, ht⟩
    exact .each connective ht

theorem not_isEntry_scalar (hv : value.isScalar = true) : ¬ IsEntry connective.key value := by
  intro h
  generalize hk : connective.key = key at h
  cases h with
  | nested _ _ => cases hv
  | each _ _ => cases hv
  | field hne _ => exact absurd hk.symm (hne connective)

end Inversion

section Reading

variable {name : String}

theorem accepts_scalar (operator : String) (value : Json) :
    Accepts (Filter.readScalar operator name value) (value.isScalar = true) := by
  cases value with
  | array _ | object _ => exact .fail nofun rfl
  | _ => rfl

theorem accepts_map_scalar {α : Type} (f : Literal → α) (operator : String) (value : Json) :
    Accepts (f <$> (Filter.readScalar operator name value : Outcome Literal)).result
      (value.isScalar = true) := by
  rw [Outcome.result_map]
  exact (accepts_scalar operator value).map

theorem accepts_scalars (operator : String) (items : List Json) :
    Accepts (Filter.readScalars operator name items) (∀ item ∈ items, item.isScalar = true) := by
  induction items with
  | nil => exact List.forall_mem_nil _
  | cons item rest ih =>
    refine .congr ?_ List.forall_mem_cons.symm
    exact (accepts_scalar operator item).both ih

theorem accepts_member {negated : Bool} (token : String) (operand : Json) :
    Accepts (Filter.readMember negated token name operand) (Takes (.member negated) operand) := by
  cases operand with
  | array items =>
    refine .congr ?_ takes_member.symm
    exact (accepts_scalars token items).map
  | _ => exact .fail nofun rfl

mutual

/-- What is asked of a field is read along its JSON, one reader for each part of the language. -/
theorem accepts_field : ∀ value : Json,
    Accepts (Filter.readField .skip name value).result (IsRequirement value)
  | .object operators => by
    rw [Filter.readField, Outcome.result_map]
    exact (accepts_tests operators).map.congr isRequirement_object.symm
  | .array items => by
    rw [Filter.readField]
    exact .fail not_isRequirement_array rfl
  | .null | .bool _ | .number _ | .string _ => by
    simp only [Filter.readField]
    exact (accepts_map_scalar _ _ _).congr (iff_of_true rfl (.scalar rfl))

theorem accepts_fields : ∀ items : List Json,
    Accepts (Filter.readFields .skip name items).result (∀ item ∈ items, IsRequirement item)
  | [] => List.forall_mem_nil _
  | item :: rest => by
    refine .congr ?_ List.forall_mem_cons.symm
    simp only [Filter.readFields, Outcome.result_bind, Outcome.result_pure]
    exact (accepts_field item).both (accepts_fields rest)

theorem accepts_tests : ∀ operators : List (String × Json),
    Accepts (Filter.readTests .skip name operators).result
      (∀ entry ∈ operators, IsTest entry.1 entry.2)
  | [] => List.forall_mem_nil _
  | (token, operand) :: rest => by
    refine .congr ?_ List.forall_mem_cons.symm
    cases ho : Operator.ofToken? token with
    | none =>
      -- the event for the token has no say in the result
      rw [Filter.readTests, ho, Outcome.result_bind]
      exact (accepts_tests rest).congr (and_iff_right (isTest_of_unknown ho)).symm
    | some operator =>
      simp only [Filter.readTests_cons ho, Outcome.result_bind, Outcome.result_pure]
      refine .both (.congr ?_ (isTest_iff_takes ho).symm) (accepts_tests rest)
      cases operator with
      | compare comparison => exact (accepts_map_scalar _ _ operand).congr takes_compare.symm
      | like => exact (accepts_map_scalar _ _ operand).congr takes_like.symm
      | member negated => exact accepts_member token operand
      | group connective =>
        rw [Filter.readTest, Outcome.result_map]
        exact (accepts_items operand).map.congr takes_group.symm

theorem accepts_items : ∀ operand : Json,
    Accepts (Filter.readItems .skip name operand).result (IsGroup operand)
  | .array items => by
    rw [Filter.readItems]
    exact (accepts_fields items).congr isGroup_array.symm
  | .object operators => by
    simp only [Filter.readItems, Outcome.result_bind, Outcome.result_pure]
    exact (accepts_tests operators).bind_ok.congr isGroup_object.symm
  | .null | .bool _ | .number _ | .string _ => by
    simp only [Filter.readItems, Outcome.liftM_eq, Outcome.result_bind, Outcome.result_ofExcept,
      Outcome.result_pure]
    exact (accepts_scalar _ _).bind_ok.congr (iff_of_true rfl (.one (.scalar rfl)))

end

mutual

/-- The objects that are read are the trees. -/
theorem accepts_read : ∀ conditions : List (String × Json),
    Accepts (Filter.read .skip conditions).result (IsTree conditions)
  | [] => isTree_iff.mpr (List.forall_mem_nil _)
  | (key, value) :: rest => by
    refine .congr ?_ isTree_cons.symm
    simp only [Filter.read_cons, Outcome.result_bind, Outcome.result_pure]
    refine .both ?_ (accepts_read rest)
    cases hk : Connective.ofKey? key with
    | none =>
      simp only [Filter.readEntry, hk, Outcome.result_map]
      exact (accepts_field value).map.congr (isEntry_field hk).symm
    | some connective =>
      obtain rfl := Connective.ofKey?_eq_some_iff.mp hk
      simp only [Filter.readEntry, hk]
      exact accepts_group connective value

theorem accepts_group (connective : Connective) : ∀ value : Json,
    Accepts (Filter.readGroup .skip connective value).result (IsEntry connective.key value)
  | .object fields => by
    rw [Filter.readGroup, Outcome.result_map]
    exact (accepts_read fields).map.congr isEntry_object.symm
  | .array items => by
    rw [Filter.readGroup, Outcome.result_map]
    exact (accepts_each connective items).map.congr isEntry_array.symm
  | .null | .bool _ | .number _ | .string _ => by
    simp only [Filter.readGroup]
    exact .fail (not_isEntry_scalar rfl) rfl

theorem accepts_each (connective : Connective) : ∀ items : List Json,
    Accepts (Filter.readEach .skip connective items).result (AreTrees items)
  | [] => areTrees_nil
  | .object fields :: rest => by
    refine .congr ?_ areTrees_cons.symm
    simp only [Filter.readEach, Outcome.result_bind, Outcome.result_pure]
    exact (accepts_read fields).both (accepts_each connective rest)
  | .null :: _ | .bool _ :: _ | .number _ :: _ | .string _ :: _ | .array _ :: _ => by
    simp only [Filter.readEach]
    refine .fail (fun h => ?_) rfl
    obtain ⟨_, he⟩ := exists_object_of_areTrees h
    cases he

end

end Reading
end JsonSelect
