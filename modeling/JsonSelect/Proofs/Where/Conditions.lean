import JsonSelect.Proofs.Where.Misgrouped
import JsonSelect.Statement

/-! The expression that a condition object stands for, and what is read from its text. -/
namespace JsonSelect

open Sql
open Expression hiding atom node

namespace Conditions

/-- The requirement of a value that is no list and no object. -/
def scalar (column : Identifier) (value : Json) : Expression (List Token) :=
  match Literal.ofJson? value with
  | some literal => (Requirement.equals literal).meaning column .and
  | none => .node .and []

def compare (column : Identifier) (comparison : Comparison) (operand : Json) :
    Expression (List Token) :=
  match Literal.ofJson? operand with
  | some literal => (Test.compare comparison literal).meaning column
  | none => .node .and []

def like (column : Identifier) (operand : Json) : Expression (List Token) :=
  match Literal.ofJson? operand with
  | some literal => (Test.like literal).meaning column
  | none => .node .and []

def member (column : Identifier) (negated : Bool) : Json → Expression (List Token)
  | .array items => (Test.member (items.filterMap Literal.ofJson?) negated).meaning column
  | _ => .node .and []

mutual

/-- The operators of a map are joined by `joiner`. -/
def field (column : Identifier) (joiner : Connective) : Json → Expression (List Token)
  | .object operators => .node joiner (tests column operators)
  | value => scalar column value

def fields (column : Identifier) (joiner : Connective) : List Json → List (Expression (List Token))
  | [] => []
  | item :: rest => field column joiner item :: fields column joiner rest

/-- Unknown operators are left out. A group joins its items by its connective, which joins the
operators of each item as well. -/
def tests (column : Identifier) : List (String × Json) → List (Expression (List Token))
  | [] => []
  | (token, operand) :: rest =>
    match Operator.ofToken? token with
    | none => tests column rest
    | some (.compare comparison) => compare column comparison operand :: tests column rest
    | some .like => like column operand :: tests column rest
    | some (.member negated) => member column negated operand :: tests column rest
    | some (.group connective) =>
      .node connective (items column connective operand) :: tests column rest

def items (column : Identifier) (connective : Connective) : Json → List (Expression (List Token))
  | .array list => fields column connective list
  | .object operators => [.node connective (tests column operators)]
  | value => [scalar column value]

end

mutual

def entries (policy : NamePolicy) : List (String × Json) → List (Expression (List Token))
  | [] => []
  | (key, value) :: rest =>
    (match Connective.ofKey? key with
      | some connective => group policy connective value
      | none => field (policy.column key) .and value) :: entries policy rest

/-- The fields of an object are joined by the connective, and so are the items of a list, each with
its own fields joined by AND. -/
def group (policy : NamePolicy) (connective : Connective) : Json → Expression (List Token)
  | .object inner => .node connective (entries policy inner)
  | .array list => .node connective (trees policy list)
  | _ => .node .and []

def trees (policy : NamePolicy) : List Json → List (Expression (List Token))
  | [] => []
  | .object inner :: rest => .node .and (entries policy inner) :: trees policy rest
  | _ :: rest => trees policy rest

end

/-- The entries of a condition object joined by AND. -/
def meaning (policy : NamePolicy) (conditions : Fields) : Expression (List Token) :=
  .node .and (entries policy conditions)

mutual

/-- The fields that a condition object asks about. -/
def names : List (String × Json) → List String
  | [] => []
  | (key, value) :: rest =>
    (match Connective.ofKey? key with
      | some _ => groupNames value
      | none => [key]) ++ names rest

def groupNames : Json → List String
  | .object inner => names inner
  | .array list => treeNames list
  | _ => []

def treeNames : List Json → List String
  | [] => []
  | .object inner :: rest => names inner ++ treeNames rest
  | _ :: rest => treeNames rest

end

section Reading

variable {policy : UnknownOperators} {column : Identifier} {name : String}

theorem readScalar_eq_ok {operator : String} {value : Json} {literal : Literal}
    (h : Filter.readScalar operator name value = .ok literal) :
    Literal.ofJson? value = some literal := by
  unfold Filter.readScalar at h
  split at h
  next ho =>
    cases h
    exact ho
  · cases h

theorem readScalars_eq_ok {operator : String} {list : List Json} {values : List Literal}
    (h : Filter.readScalars operator name list = .ok values) :
    list.filterMap Literal.ofJson? = values := by
  induction list generalizing values with
  | nil =>
    cases h
    rfl
  | cons item rest ih =>
    simp only [Filter.readScalars, Error.bind_eq_ok] at h
    obtain ⟨value, hv, more, hm, he⟩ := h
    cases he
    rw [List.filterMap_cons, readScalar_eq_ok hv, ih hm]

theorem member_of_read {negated : Bool} {token : String} {operand : Json} {test : Test}
    (h : Filter.readMember negated token name operand = .ok test) :
    test.meaning column = member column negated operand := by
  cases operand with
  | array list =>
    simp only [Filter.readMember, Error.bind_eq_ok] at h
    obtain ⟨values, hv, he⟩ := h
    cases he
    rw [member, readScalars_eq_ok hv]
  | _ => cases h

mutual

theorem field_of_read : ∀ {value : Json} {requirement : Requirement} (joiner : Connective),
    (Filter.readField policy name value).result = .ok requirement →
    requirement.meaning column joiner = field column joiner value
  | .object operators, requirement, joiner, h => by
    simp only [Filter.readField, Outcome.result_map, Error.map_eq_ok] at h
    obtain ⟨found, ht, rfl⟩ := h
    rw [Requirement.meaning, field, tests_of_read ht]
  | .array _, requirement, joiner, h => by
    simp [Filter.readField] at h
  | .null, requirement, joiner, h | .bool _, requirement, joiner, h
  | .number _, requirement, joiner, h | .string _, requirement, joiner, h => by
    simp only [Filter.readField, Outcome.result_map, Error.map_eq_ok, Outcome.liftM_eq,
      Outcome.result_ofExcept] at h
    obtain ⟨literal, hl, rfl⟩ := h
    simp only [field, scalar, readScalar_eq_ok hl]
    rfl

theorem fields_of_read : ∀ {list : List Json} {requirements : List Requirement}
    (joiner : Connective), (Filter.readFields policy name list).result = .ok requirements →
    Requirement.meanings column joiner requirements = fields column joiner list
  | [], requirements, joiner, h => by
    simp only [Filter.readFields, Outcome.result_pure, Except.ok.injEq] at h
    subst h
    rfl
  | item :: rest, requirements, joiner, h => by
    simp only [Filter.readFields, Outcome.result_bind, Error.bind_eq_ok, Outcome.result_pure,
      Except.ok.injEq] at h
    obtain ⟨requirement, hr, more, hm, rfl⟩ := h
    rw [Requirement.meanings, fields, field_of_read joiner hr, fields_of_read joiner hm]

theorem tests_of_read : ∀ {operators : List (String × Json)} {found : List Test},
    (Filter.readTests policy name operators).result = .ok found →
    Test.meanings column found = tests column operators
  | [], found, h => by
    simp only [Filter.readTests, Outcome.result_pure, Except.ok.injEq] at h
    subst h
    rfl
  | (token, operand) :: rest, found, h => by
    unfold Filter.readTests at h
    rw [tests]
    cases ho : Operator.ofToken? token with
    | none =>
      simp only [ho, Outcome.result_bind, Error.bind_eq_ok] at h
      obtain ⟨_, _, hm⟩ := h
      exact tests_of_read hm
    | some operator =>
      cases operator with
      | compare comparison =>
        simp only [ho, Outcome.result_bind, Outcome.result_map, Error.bind_eq_ok, Error.map_eq_ok,
          Outcome.liftM_eq, Outcome.result_ofExcept, Outcome.result_pure, Except.ok.injEq] at h
        obtain ⟨_, ⟨literal, hl, rfl⟩, more, hm, rfl⟩ := h
        simp only [Test.meanings, compare, readScalar_eq_ok hl, tests_of_read hm]
      | like =>
        simp only [ho, Outcome.result_bind, Outcome.result_map, Error.bind_eq_ok, Error.map_eq_ok,
          Outcome.liftM_eq, Outcome.result_ofExcept, Outcome.result_pure, Except.ok.injEq] at h
        obtain ⟨_, ⟨literal, hl, rfl⟩, more, hm, rfl⟩ := h
        simp only [Test.meanings, like, readScalar_eq_ok hl, tests_of_read hm]
      | member negated =>
        simp only [ho, Outcome.result_bind, Error.bind_eq_ok, Outcome.liftM_eq,
          Outcome.result_ofExcept, Outcome.result_pure, Except.ok.injEq] at h
        obtain ⟨test, ht, more, hm, rfl⟩ := h
        simp only [Test.meanings, member_of_read ht, tests_of_read hm]
      | group connective =>
        simp only [ho, Outcome.result_bind, Outcome.result_map, Error.bind_eq_ok, Error.map_eq_ok,
          Outcome.result_pure, Except.ok.injEq] at h
        obtain ⟨_, ⟨requirements, hi, rfl⟩, more, hm, rfl⟩ := h
        simp only [Test.meanings, Test.meaning, items_of_read connective hi, tests_of_read hm]

theorem items_of_read : ∀ {operand : Json} {requirements : List Requirement}
    (connective : Connective), (Filter.readItems policy name operand).result = .ok requirements →
    Requirement.meanings column connective requirements = items column connective operand
  | .array list, requirements, connective, h => by
    rw [Filter.readItems] at h
    rw [items, fields_of_read connective h]
  | .object operators, requirements, connective, h => by
    simp only [Filter.readItems, Outcome.result_bind, Error.bind_eq_ok, Outcome.result_pure,
      Except.ok.injEq] at h
    obtain ⟨found, ht, rfl⟩ := h
    simp only [Requirement.meanings, Requirement.meaning, items, tests_of_read ht]
  | .null, requirements, connective, h | .bool _, requirements, connective, h
  | .number _, requirements, connective, h | .string _, requirements, connective, h => by
    simp only [Filter.readItems, Outcome.result_bind, Error.bind_eq_ok, Outcome.liftM_eq,
      Outcome.result_ofExcept, Outcome.result_pure, Except.ok.injEq] at h
    obtain ⟨literal, hl, rfl⟩ := h
    simp only [items, scalar, readScalar_eq_ok hl]
    rfl

end

mutual

theorem entries_of_read (names : NamePolicy) : ∀ {conditions : List (String × Json)}
    {filter : Filter}, (Filter.read policy conditions).result = .ok filter →
    Entry.meanings names filter = entries names conditions ∧
      Filter.names filter = Conditions.names conditions
  | [], filter, h => by
    simp only [Filter.read, Outcome.result_pure, Except.ok.injEq] at h
    subst h
    exact ⟨rfl, rfl⟩
  | (key, value) :: rest, filter, h => by
    cases hk : Connective.ofKey? key with
    | none =>
      simp only [Filter.read, hk, Outcome.result_bind, Outcome.result_map, Error.bind_eq_ok,
        Error.map_eq_ok, Outcome.result_pure, Except.ok.injEq] at h
      obtain ⟨_, ⟨requirement, hr, rfl⟩, more, hm, rfl⟩ := h
      obtain ⟨he, hn⟩ := entries_of_read names hm
      simp only [Entry.meanings, Entry.meaning, entries, Filter.names, Entry.names,
        Conditions.names, hk, field_of_read .and hr, he, hn, and_self]
    | some connective =>
      simp only [Filter.read, hk, Outcome.result_bind, Error.bind_eq_ok, Outcome.result_pure,
        Except.ok.injEq] at h
      obtain ⟨entry, hg, more, hm, rfl⟩ := h
      obtain ⟨he, hn⟩ := entries_of_read names hm
      obtain ⟨hge, hgn⟩ := group_of_read names hg
      simp only [Entry.meanings, entries, Filter.names, Conditions.names, hk, hge, hgn, he, hn,
        and_self]

theorem group_of_read (names : NamePolicy) : ∀ {connective : Connective} {value : Json}
    {entry : Entry}, (Filter.readGroup policy connective value).result = .ok entry →
    entry.meaning names = group names connective value ∧ entry.names = groupNames value
  | connective, .object inner, entry, h => by
    simp only [Filter.readGroup, Outcome.result_map, Error.map_eq_ok] at h
    obtain ⟨filter, hf, rfl⟩ := h
    obtain ⟨he, hn⟩ := entries_of_read names hf
    simp only [Entry.meaning, group, Entry.names, groupNames, he, hn, and_self]
  | connective, .array list, entry, h => by
    simp only [Filter.readGroup, Outcome.result_map, Error.map_eq_ok] at h
    obtain ⟨filters, hf, rfl⟩ := h
    obtain ⟨he, hn⟩ := trees_of_read names hf
    simp only [Entry.meaning, group, Entry.names, groupNames, he, hn, and_self]
  | _, .null, _, h | _, .bool _, _, h | _, .number _, _, h | _, .string _, _, h => by
    simp [Filter.readGroup] at h

theorem trees_of_read (names : NamePolicy) : ∀ {connective : Connective} {list : List Json}
    {filters : List Filter}, (Filter.readEach policy connective list).result = .ok filters →
    Filter.meanings names filters = trees names list ∧
      Filter.allNames filters = treeNames list
  | _, [], filters, h => by
    simp only [Filter.readEach, Outcome.result_pure, Except.ok.injEq] at h
    subst h
    exact ⟨rfl, rfl⟩
  | connective, .object inner :: rest, filters, h => by
    simp only [Filter.readEach, Outcome.result_bind, Error.bind_eq_ok, Outcome.result_pure,
      Except.ok.injEq] at h
    obtain ⟨filter, hf, more, hm, rfl⟩ := h
    obtain ⟨he, hn⟩ := entries_of_read names hf
    obtain ⟨hte, htn⟩ := trees_of_read names hm
    simp only [Filter.meanings, trees, Filter.allNames, treeNames, he, hn, hte, htn, and_self]
  | _, .null :: _, _, h | _, .bool _ :: _, _, h | _, .number _ :: _, _, h | _, .string _ :: _, _, h
  | _, .array _ :: _, _, h => by
    simp [Filter.readEach] at h

end

end Reading
end Conditions

section Values

variable {settings : Settings} {conditions : Fields} {sql : String}

/-- The text of a condition object is read with the values of the object, whatever the values of the
atoms, exactly when the object is not misgrouped. -/
theorem Settings.value_eq_iff (h : Clause.optionText <$> (settings.condition conditions).result =
    .ok sql) (hne : sql ≠ "") (hn : Unquoted (Conditions.names conditions)) :
    ∃ filter e, (Filter.read settings.unknownOperators conditions).result = .ok filter ∧
      expression? sql = some e ∧
      e.leaves = (Conditions.meaning settings.names conditions).leaves ∧
      ((∀ values, e.value values = (Conditions.meaning settings.names conditions).value values) ↔
        Filter.misgrouped filter = false) := by
  obtain ⟨part, hp, hs⟩ := Error.map_eq_ok.mp h
  simp only [Settings.condition, Outcome.result_bind, Error.bind_eq_ok] at hp
  obtain ⟨filter, hr, hc⟩ := hp
  obtain ⟨he, hm⟩ := Conditions.entries_of_read settings.names hr
  have hf : filter.sql settings.names .and = .ok sql := by
    rw [Filter.sql, hc, ← hs]
    rfl
  have hmean : Conditions.meaning settings.names conditions =
      filter.meaning settings.names .and := by
    rw [Conditions.meaning, ← he, Filter.meaning]
  obtain ⟨e, hx, hl, hk, hd⟩ := Filter.reads_of_sql hf hne (hm ▸ hn)
  rw [hmean]
  refine ⟨filter, e, hr, hx, hl, fun hv => ?_, fun hg => value_eq_of_normal_eq (hk hg)⟩
  by_contra hg
  obtain ⟨values, hy, hno⟩ := hd (by simpa using hg)
  rw [hv values, hno] at hy
  cases hy

theorem Settings.value_eq_iff_nested :
    let conditions : Fields := [("a", .object [("$gt", .ofInt 5), ("$lt", .null)]),
      ("$or", .array [.object [("b", .string "x")], .object [("c", .null), ("d", .ofInt 1)]])]
    let sql := "((`a` > 5) AND ((`b` = \"x\") OR (`c` IS NULL AND `d` = 1)))"
    Clause.optionText <$> (Settings.condition {} conditions).result = .ok sql ∧
      Unquoted (Conditions.names conditions) ∧
      ∃ filter e, (Filter.read .skip conditions).result = .ok filter ∧ expression? sql = some e ∧
        e.leaves = (Conditions.meaning .verbatim conditions).leaves ∧
        ((∀ values, e.value values = (Conditions.meaning .verbatim conditions).value values) ↔
          Filter.misgrouped filter = false) := by
  intro conditions sql
  have h : Clause.optionText <$> (Settings.condition {} conditions).result = .ok sql := rfl
  have hn : Unquoted (Conditions.names conditions) := by decide
  exact ⟨h, hn, Settings.value_eq_iff h (by decide) hn⟩

/-- A value of 3 satisfies what is read, but is not above 5 as the object asks. -/
theorem Settings.value_ne_of_group :
    let conditions : Fields :=
      [("a", .object [("$gt", .ofInt 5), ("$or", .array [.ofInt 2, .ofInt 3])])]
    let sql := "((`a` > 5 AND `a` = 2 OR `a` = 3))"
    let found : List Token := [.opening, .opening, .name "a", .operator ">", .number "5",
      .word "AND", .name "a", .operator "=", .number "2", .word "OR", .name "a", .operator "=",
      .number "3", .closing, .closing]
    let values : Nat → Truth := fun i => if i = 2 then .yes else .no
    Clause.optionText <$> (Settings.condition {} conditions).result = .ok sql ∧
      Unquoted (Conditions.names conditions) ∧ tokens sql = some found ∧
      ∃ e, expression? sql = some e ∧ e.value values = some .yes ∧
        (Conditions.meaning .verbatim conditions).value values = some .no := by
  intro conditions sql found values
  have h : Clause.optionText <$> (Settings.condition {} conditions).result = .ok sql := rfl
  have ht : tokens sql = some found := by decide
  have hr : (read found).bind (·.value values) = some .yes := rfl
  have hm : (Conditions.meaning .verbatim conditions).value values = some .no := rfl
  obtain ⟨e, he, hv⟩ := Option.bind_eq_some_iff.mp hr
  have hx : expression? sql = some e := by
    rw [expression?, ht]
    exact he
  exact ⟨h, by decide, ht, e, hx, hv, hm⟩

end Values
end JsonSelect
