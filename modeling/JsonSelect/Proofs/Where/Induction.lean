import JsonSelect.Proofs.Decision
import JsonSelect.Where.OfFilter

/-! Induction over the building of conditions: what every way of building a part keeps holds of
every filter together with its condition. -/
namespace JsonSelect

/-- Relations between the parts of a filter and the conditions built from them, closed under every
way to build one. -/
structure Filter.Invariant (policy : NamePolicy)
    (ofRequirement : Identifier → Connective → Requirement → Option Clause → Prop)
    (ofRequirements : Identifier → Connective → List Requirement → List Clause → Prop)
    (ofTest : Identifier → Test → Option Clause → Prop)
    (ofTests : Identifier → List Test → List Clause → Prop)
    (ofEntry : Entry → Option Clause → Prop)
    (ofEntries : List Entry → List Clause → Prop)
    (ofFilters : List Filter → List Clause → Prop) : Prop where
  equals : ∀ column joiner value,
    ofRequirement column joiner (.equals value) (some (.single (.ofValue column value)))
  tests : ∀ column joiner tests parts, ofTests column tests parts →
    ofRequirement column joiner (.tests tests) (Clause.enclosed joiner parts)
  noRequirements : ∀ column joiner, ofRequirements column joiner [] []
  moreRequirements : ∀ column joiner item items part parts, ofRequirement column joiner item part →
    ofRequirements column joiner items parts →
    ofRequirements column joiner (item :: items) (part.toList ++ parts)
  compare : ∀ column comparison value atom, comparison.atom? column value = some atom →
    ofTest column (.compare comparison value) (some (.single atom))
  unordered : ∀ column comparison value, comparison.atom? column value = none →
    ofTest column (.compare comparison value) none
  like : ∀ column operand pattern, Pattern.ofLiteral operand = .ok pattern →
    ofTest column (.like operand) (some (.single (.like column pattern)))
  member : ∀ column values negated,
    ofTest column (.member values negated) (some (.single (.ofMember column negated values)))
  group : ∀ column connective items parts, ofRequirements column connective items parts →
    ofTest column (.group connective items) (Clause.join connective parts)
  noTests : ∀ column, ofTests column [] []
  moreTests : ∀ column test tests part parts, ofTest column test part →
    ofTests column tests parts → ofTests column (test :: tests) (part.toList ++ parts)
  nested : ∀ connective filter parts, ofEntries filter parts →
    ofEntry (.nested connective filter) (Clause.enclosed connective parts)
  each : ∀ connective filters parts, ofFilters filters parts →
    ofEntry (.each connective filters) (Clause.enclosed connective parts)
  field : ∀ name requirement column part, Identifier.ofName policy name = .ok column →
    ofRequirement column .and requirement part → ofEntry (.field name requirement) part
  noEntries : ofEntries [] []
  moreEntries : ∀ entry entries part parts, ofEntry entry part → ofEntries entries parts →
    ofEntries (entry :: entries) (part.toList ++ parts)
  noFilters : ofFilters [] []
  moreFilters : ∀ filter filters parts more, ofEntries filter parts → ofFilters filters more →
    ofFilters (filter :: filters) ((Clause.enclosed .and parts).toList ++ more)

namespace Filter.Invariant

variable {policy : NamePolicy}
  {ofRequirement : Identifier → Connective → Requirement → Option Clause → Prop}
  {ofRequirements : Identifier → Connective → List Requirement → List Clause → Prop}
  {ofTest : Identifier → Test → Option Clause → Prop}
  {ofTests : Identifier → List Test → List Clause → Prop}
  {ofEntry : Entry → Option Clause → Prop}
  {ofEntries : List Entry → List Clause → Prop}
  {ofFilters : List Filter → List Clause → Prop}
  (inv : Filter.Invariant policy ofRequirement ofRequirements ofTest ofTests ofEntry ofEntries
    ofFilters)

include inv

mutual

theorem requirement_clause {column : Identifier} {joiner : Connective} :
    ∀ {requirement : Requirement} {part : Option Clause},
      (requirement.clause column joiner).result = .ok part →
      ofRequirement column joiner requirement part
  | .equals value, part, h => by
    simp only [Requirement.clause, Outcome.result_pure, Except.ok.injEq] at h
    exact h ▸ inv.equals column joiner value
  | .tests tests, part, h => by
    simp only [Requirement.clause, Outcome.result_map, Error.map_eq_ok] at h
    obtain ⟨parts, hp, rfl⟩ := h
    exact inv.tests column joiner tests parts (tests_clauses hp)

theorem requirements_clauses {column : Identifier} {joiner : Connective} :
    ∀ {items : List Requirement} {parts : List Clause},
      (Requirement.clauses column joiner items).result = .ok parts →
      ofRequirements column joiner items parts
  | [], parts, h => by
    simp only [Requirement.clauses, Outcome.result_pure, Except.ok.injEq] at h
    exact h ▸ inv.noRequirements column joiner
  | item :: items, parts, h => by
    simp only [Requirement.clauses, Outcome.result_bind, Error.bind_eq_ok, Outcome.result_pure,
      Except.ok.injEq] at h
    obtain ⟨part, hp, more, hm, rfl⟩ := h
    exact inv.moreRequirements column joiner item items part more (requirement_clause hp)
      (requirements_clauses hm)

theorem test_clause {column : Identifier} :
    ∀ {test : Test} {part : Option Clause},
      (test.clause column).result = .ok part → ofTest column test part
  | .compare comparison value, part, h => by
    cases ha : comparison.atom? column value with
    | some atom =>
      simp only [Test.clause, ha, Outcome.result_pure, Except.ok.injEq] at h
      exact h ▸ inv.compare column comparison value atom ha
    | none =>
      simp only [Test.clause, ha, Outcome.result_bind, Error.bind_eq_ok, Outcome.result_emit,
        Outcome.result_pure, Except.ok.injEq] at h
      obtain ⟨_, _, rfl⟩ := h
      exact inv.unordered column comparison value ha
  | .like operand, part, h => by
    simp only [Test.clause, Outcome.liftM_eq, Outcome.result_bind, Error.bind_eq_ok,
      Outcome.result_ofExcept, Outcome.result_pure, Except.ok.injEq] at h
    obtain ⟨pattern, hp, rfl⟩ := h
    exact inv.like column operand pattern hp
  | .member values negated, part, h => by
    simp only [Test.clause, Outcome.result_pure, Except.ok.injEq] at h
    exact h ▸ inv.member column values negated
  | .group connective items, part, h => by
    simp only [Test.clause, Outcome.result_map, Error.map_eq_ok] at h
    obtain ⟨parts, hp, rfl⟩ := h
    exact inv.group column connective items parts (requirements_clauses hp)

theorem tests_clauses {column : Identifier} :
    ∀ {tests : List Test} {parts : List Clause},
      (Test.clauses column tests).result = .ok parts → ofTests column tests parts
  | [], parts, h => by
    simp only [Test.clauses, Outcome.result_pure, Except.ok.injEq] at h
    exact h ▸ inv.noTests column
  | test :: tests, parts, h => by
    simp only [Test.clauses, Outcome.result_bind, Error.bind_eq_ok, Outcome.result_pure,
      Except.ok.injEq] at h
    obtain ⟨part, hp, more, hm, rfl⟩ := h
    exact inv.moreTests column test tests part more (test_clause hp) (tests_clauses hm)

end

mutual

theorem entry_clause :
    ∀ {entry : Entry} {part : Option Clause},
      (entry.clause policy).result = .ok part → ofEntry entry part
  | .nested connective filter, part, h => by
    simp only [Entry.clause, Outcome.result_map, Error.map_eq_ok] at h
    obtain ⟨parts, hp, rfl⟩ := h
    exact inv.nested connective filter parts (entries_clauses hp)
  | .each connective filters, part, h => by
    simp only [Entry.clause, Outcome.result_map, Error.map_eq_ok] at h
    obtain ⟨parts, hp, rfl⟩ := h
    exact inv.each connective filters parts (filters_clauses hp)
  | .field name requirement, part, h => by
    simp only [Entry.clause, Outcome.liftM_eq, Outcome.result_bind, Error.bind_eq_ok,
      Outcome.result_ofExcept] at h
    obtain ⟨column, hc, hp⟩ := h
    exact inv.field name requirement column part hc (inv.requirement_clause hp)

theorem entries_clauses :
    ∀ {entries : List Entry} {parts : List Clause},
      (Entry.clauses policy entries).result = .ok parts → ofEntries entries parts
  | [], parts, h => by
    simp only [Entry.clauses, Outcome.result_pure, Except.ok.injEq] at h
    exact h ▸ inv.noEntries
  | entry :: entries, parts, h => by
    simp only [Entry.clauses, Outcome.result_bind, Error.bind_eq_ok, Outcome.result_pure,
      Except.ok.injEq] at h
    obtain ⟨part, hp, more, hm, rfl⟩ := h
    exact inv.moreEntries entry entries part more (entry_clause hp) (entries_clauses hm)

theorem filters_clauses :
    ∀ {filters : List Filter} {parts : List Clause},
      (Filter.clauses policy filters).result = .ok parts → ofFilters filters parts
  | [], parts, h => by
    simp only [Filter.clauses, Outcome.result_pure, Except.ok.injEq] at h
    exact h ▸ inv.noFilters
  | filter :: filters, parts, h => by
    simp only [Filter.clauses, Outcome.result_bind, Error.bind_eq_ok, Outcome.result_map,
      Error.map_eq_ok, Outcome.result_pure, Except.ok.injEq] at h
    obtain ⟨_, ⟨first, hf, rfl⟩, more, hm, rfl⟩ := h
    exact inv.moreFilters filter filters first more (entries_clauses hf) (filters_clauses hm)

end

/-- The condition of a filter is the enclosed join of what its entries give. -/
theorem filter_clause {connective : Connective} {filter : Filter} {part : Option Clause}
    (h : (filter.clause policy connective).result = .ok part) :
    ∃ parts, ofEntries filter parts ∧ part = Clause.enclosed connective parts := by
  simp only [Filter.clause, Outcome.result_map, Error.map_eq_ok] at h
  obtain ⟨parts, hp, rfl⟩ := h
  exact ⟨parts, inv.entries_clauses hp, rfl⟩

end Filter.Invariant
end JsonSelect
