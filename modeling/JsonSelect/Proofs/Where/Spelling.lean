import JsonSelect.Proofs.Where.Language
import Mathlib.Data.List.Forall2

/-! The spelling of operators does not matter. Condition objects that are alike but for the spellings
of operators are read as the same filter, or both fail for errors of one kind. -/
namespace JsonSelect

/-- The same key, or two spellings of one operator. -/
inductive Operator.SameKey : String → String → Prop where
  | same (key : String) : SameKey key key
  | respelled {key other : String} {operator : Operator} (h : Spells key operator)
    (ho : Spells other operator) : SameKey key other

mutual

/-- What stands under a field, with any operators among its keys spelled in another way. -/
inductive Json.Respelled : Json → Json → Prop where
  | scalar {value : Json} (h : value.isScalar = true) : Json.Respelled value value
  | array {items others : List Json} (h : List.Forall₂ Json.Respelled items others) :
    Json.Respelled (.array items) (.array others)
  | object {fields others : Fields} (h : List.Forall₂ Json.FieldRespelled fields others) :
    Json.Respelled (.object fields) (.object others)

inductive Json.FieldRespelled : String × Json → String × Json → Prop where
  | mk {key otherKey : String} {value other : Json} (hk : Operator.SameKey key otherKey)
    (hv : Json.Respelled value other) : Json.FieldRespelled (key, value) (otherKey, other)

end

namespace Conditions

mutual

/-- A condition object, or what stands in it under a connective. Its own keys stay. -/
inductive Respelled : Json → Json → Prop where
  | scalar {value : Json} (h : value.isScalar = true) : Respelled value value
  | array {items others : List Json} (h : List.Forall₂ Respelled items others) :
    Respelled (.array items) (.array others)
  | object {fields others : Fields} (h : List.Forall₂ EntryRespelled fields others) :
    Respelled (.object fields) (.object others)

inductive EntryRespelled : String × Json → String × Json → Prop where
  | group (connective : Connective) {value other : Json} (h : Respelled value other) :
    EntryRespelled (connective.key, value) (connective.key, other)
  | field {key : String} {value other : Json} (hk : ∀ connective : Connective, key ≠ connective.key)
    (h : value.Respelled other) : EntryRespelled (key, value) (key, other)

end

end Conditions

namespace Operator

variable {key other : String}

/-- Either both keys spell the operator, or they are one key that spells none. -/
theorem SameKey.ofToken?_eq (h : SameKey key other) : ofToken? key = ofToken? other := by
  cases h with
  | same => rfl
  | respelled h ho => rw [ofToken?_eq_some_iff.mpr h, ofToken?_eq_some_iff.mpr ho]

theorem SameKey.eq_of_none (h : SameKey key other) (hn : ofToken? key = none) : key = other := by
  cases h with
  | same => rfl
  | respelled h _ => exact absurd h (ofToken?_eq_none_iff.mp hn _)

end Operator

namespace Filter

open Outcome

variable {policy : UnknownOperators} {name token otherToken : String}

/-- The operator that an error names is no part of its kind. -/
theorem mapError_readScalar {value other : Json} (h : value.Respelled other) :
    (readScalar token name value).mapError Error.kind =
      (readScalar otherToken name other).mapError Error.kind := by
  cases h with
  | scalar => cases value <;> rfl
  | array => rfl
  | object => rfl

theorem mapError_readScalars {items others : List Json}
    (h : List.Forall₂ Json.Respelled items others) :
    (readScalars token name items).mapError Error.kind =
      (readScalars otherToken name others).mapError Error.kind := by
  induction h with
  | nil => rfl
  | cons h _ ih =>
    simp only [readScalars]
    exact Error.mapError_bind (mapError_readScalar h) fun _ => Error.mapError_bind ih fun _ => rfl

theorem mapError_readMember {negated : Bool} {operand other : Json} (h : operand.Respelled other) :
    (readMember negated token name operand).mapError Error.kind =
      (readMember negated otherToken name other).mapError Error.kind := by
  cases h with
  | scalar h =>
    cases operand with
    | array _ => cases h
    | _ => rfl
  | array h =>
    simp only [readMember]
    exact Error.mapError_bind (mapError_readScalars h) fun _ => rfl
  | object => rfl

mutual

-- By induction on the JSON, one case for each way to respell it.
theorem sameKind_readField : ∀ value other : Json, value.Respelled other →
    SameKind (readField policy name value) (readField policy name other)
  | .object operators, _, h => by
    cases h with
    | scalar h => cases h
    | object h =>
      simp only [readField]
      exact (sameKind_readTests operators _ h).map
  | .array _, _, h => by
    cases h with
    | scalar h => cases h
    | array => simp only [readField]; exact .fail rfl
  | .null, _, h | .bool _, _, h | .number _, _, h | .string _, _, h => by
    cases h
    exact .refl _

theorem sameKind_readFields : ∀ items others : List Json,
    List.Forall₂ Json.Respelled items others →
    SameKind (readFields policy name items) (readFields policy name others)
  | [], _, h => by
    cases h
    exact .refl _
  | item :: rest, _, h => by
    cases h with
    | cons h hr =>
      simp only [readFields]
      exact (sameKind_readField item _ h).both List.cons (sameKind_readFields rest _ hr)

theorem sameKind_readTests : ∀ operators others : List (String × Json),
    List.Forall₂ Json.FieldRespelled operators others →
    SameKind (readTests policy name operators) (readTests policy name others)
  | [], _, h => by
    cases h
    exact .refl _
  | (token, operand) :: rest, _, h => by
    cases h with
    | cons h hr =>
      obtain ⟨hk, hv⟩ := h
      cases ho : Operator.ofToken? token with
      | none =>
        obtain rfl := hk.eq_of_none ho
        simp only [readTests, ho]
        exact (SameKind.refl _).bind fun _ => sameKind_readTests rest _ hr
      | some operator =>
        rw [readTests_cons ho, readTests_cons (hk.ofToken?_eq.symm.trans ho)]
        refine .both List.cons ?_ (sameKind_readTests rest _ hr)
        cases operator with
        | compare comparison => exact (SameKind.ofExcept (mapError_readScalar hv)).map
        | like => exact (SameKind.ofExcept (mapError_readScalar hv)).map
        | member negated => exact .ofExcept (mapError_readMember hv)
        | group connective =>
          simp only [readTest]
          exact (sameKind_readItems operand _ hv).map

theorem sameKind_readItems : ∀ operand other : Json, operand.Respelled other →
    SameKind (readItems policy name operand) (readItems policy name other)
  | .array items, _, h => by
    cases h with
    | scalar h => cases h
    | array h =>
      simp only [readItems]
      exact sameKind_readFields items _ h
  | .object operators, _, h => by
    cases h with
    | scalar h => cases h
    | object h =>
      simp only [readItems]
      exact (sameKind_readTests operators _ h).bind fun _ => .refl _
  | .null, _, h | .bool _, _, h | .number _, _, h | .string _, _, h => by
    cases h
    exact .refl _

end

mutual

theorem sameKind_read : ∀ conditions others : List (String × Json),
    List.Forall₂ Conditions.EntryRespelled conditions others →
    SameKind (read policy conditions) (read policy others)
  | [], _, h => by
    cases h
    exact .refl _
  | (key, value) :: rest, _, h => by
    cases h with
    | cons h hr =>
      cases h with
      | group connective h =>
        simp only [read_cons, readEntry, Connective.ofKey?_key]
        exact (sameKind_readGroup connective value _ h).both List.cons (sameKind_read rest _ hr)
      | field hk h =>
        simp only [read_cons, readEntry, Connective.ofKey?_of_ne hk]
        exact (sameKind_readField value _ h).map.both List.cons (sameKind_read rest _ hr)

theorem sameKind_readGroup (connective : Connective) : ∀ value other : Json,
    Conditions.Respelled value other →
    SameKind (readGroup policy connective value) (readGroup policy connective other)
  | .object fields, _, h => by
    cases h with
    | scalar h => cases h
    | object h =>
      simp only [readGroup]
      exact (sameKind_read fields _ h).map
  | .array items, _, h => by
    cases h with
    | scalar h => cases h
    | array h =>
      simp only [readGroup]
      exact (sameKind_readEach connective items _ h).map
  | .null, _, h | .bool _, _, h | .number _, _, h | .string _, _, h => by
    cases h
    exact .refl _

theorem sameKind_readEach (connective : Connective) : ∀ items others : List Json,
    List.Forall₂ Conditions.Respelled items others →
    SameKind (readEach policy connective items) (readEach policy connective others)
  | [], _, h => by
    cases h
    exact .refl _
  | .object fields :: rest, _, h => by
    cases h with
    | cons h hr =>
      cases h with
      | scalar h => cases h
      | object h =>
        simp only [readEach]
        exact (sameKind_read fields _ h).both List.cons (sameKind_readEach connective rest _ hr)
  | .null :: _, _, h | .bool _ :: _, _, h | .number _ :: _, _, h | .string _ :: _, _, h
  | .array _ :: _, _, h => by
    cases h with
    | cons h _ =>
      cases h <;> simp only [readEach] <;> exact .fail rfl

end

/-- Whatever is done about unknown operators, condition objects that are alike but for the spellings
of operators under their fields are read as one filter or fail for errors of one kind, after the
same words to the log. -/
theorem spelling_does_not_matter (policy : UnknownOperators) {conditions others : Fields}
    (h : Conditions.Respelled (.object conditions) (.object others)) :
    (read policy conditions).events = (read policy others).events ∧
    ((∃ filter, (read policy conditions).result = .ok filter ∧
        (read policy others).result = .ok filter) ∨
      ∃ error other, (read policy conditions).result = .error error ∧
        (read policy others).result = .error other ∧ error.kind = other.kind) := by
  have hs : SameKind (read policy conditions) (read policy others) := by
    cases h with
    | scalar h => cases h
    | object h => exact sameKind_read conditions others h
  exact ⟨hs.events_eq, hs.result_cases⟩

/-- Operators on two levels of a field, below a field that is named like an operator, and where the
operand is wrong. -/
theorem spelling_does_not_matter_mixed :
    let conditions : Fields := [
      ("a", .object [("$GTE", .ofInt 3), ("$or", .array [.object [("===", .ofInt 2)], .null])]),
      ("$or", .array [.object [("$eq", .object [("$LIKE", .string "x")])]])]
    let others : Fields := [
      ("a", .object [(">=", .ofInt 3), ("$OR", .array [.object [("$eq", .ofInt 2)], .null])]),
      ("$or", .array [.object [("$eq", .object [("$like", .string "x")])]])]
    let failing : Fields := [("a", .object [("$IN", .bool true)])]
    let alsoFailing : Fields := [("a", .object [("$in", .bool true)])]
    Conditions.Respelled (.object conditions) (.object others) ∧
    (∃ filter, (read .reject conditions).result = .ok filter ∧
      (read .reject others).result = .ok filter) ∧
    Conditions.Respelled (.object failing) (.object alsoFailing) ∧
    ∃ error other, (read .skip failing).result = .error error ∧
      (read .skip alsoFailing).result = .error other ∧ error.kind = other.kind := by
  intro conditions others failing alsoFailing
  have hn : ∀ name ∈ ["a", "$eq"], ∀ connective : Connective, name ≠ connective.key := by
    intro name hm connective
    cases connective <;> revert name <;> decide
  have hk : ∀ {key other : String} (operator : Operator), Operator.Spells key operator →
      Operator.Spells other operator → Operator.SameKey key other := fun _ => .respelled
  have ha : Json.Respelled
      (.object [("$GTE", .ofInt 3), ("$or", .array [.object [("===", .ofInt 2)], .null])])
      (.object [(">=", .ofInt 3), ("$OR", .array [.object [("$eq", .ofInt 2)], .null])]) :=
    .object (.cons ⟨hk (.compare .gte) (by decide) (by decide), .scalar rfl⟩
      (.cons ⟨hk (.group .or) (by decide) (by decide), .array (.cons (.object (.cons
        ⟨hk (.compare .eq) (by decide) (by decide), .scalar rfl⟩ .nil)) (.cons (.scalar rfl) .nil))⟩
        .nil))
  have hl : Json.Respelled (.object [("$LIKE", .string "x")]) (.object [("$like", .string "x")]) :=
    .object (.cons ⟨hk .like (by decide) (by decide), .scalar rfl⟩ .nil)
  have h : Conditions.Respelled (.object conditions) (.object others) :=
    .object (.cons (.field (hn _ (by simp)) ha) (.cons (.group .or (.array (.cons
      (.object (.cons (.field (hn _ (by simp)) hl) .nil)) .nil))) .nil))
  have hf : Conditions.Respelled (.object failing) (.object alsoFailing) :=
    .object (.cons (.field (hn _ (by simp)) (.object (.cons
      ⟨hk (.member false) (by decide) (by decide), .scalar rfl⟩ .nil))) .nil)
  refine ⟨h, (spelling_does_not_matter .reject h).2.resolve_right ?_, hf,
    (spelling_does_not_matter .skip hf).2.resolve_left ?_⟩
  · rintro ⟨error, -, he, -⟩
    cases he
  · rintro ⟨filter, he, -⟩
    cases he

end Filter
end JsonSelect
