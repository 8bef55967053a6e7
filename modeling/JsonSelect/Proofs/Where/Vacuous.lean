import JsonSelect.Proofs.Statement.Phrases
import JsonSelect.Proofs.Where.Accounts

/-! The filters that stand for no condition, and filters without the parts that contribute none. -/
namespace JsonSelect

mutual

/-- Orderings against null and groups of such requirements ask for nothing. -/
def Requirement.isVacuous : Requirement → Bool
  | .equals _ => false
  | .tests tests => Test.allVacuous tests

def Requirement.allVacuous : List Requirement → Bool
  | [] => true
  | item :: rest => item.isVacuous && Requirement.allVacuous rest

def Test.isVacuous : Test → Bool
  | .compare comparison value => value.isNull && comparison.isOrdering
  | .like _ => false
  | .member _ _ => false
  | .group _ items => Requirement.allVacuous items

def Test.allVacuous : List Test → Bool
  | [] => true
  | test :: rest => test.isVacuous && Test.allVacuous rest

end

mutual

def Entry.isVacuous : Entry → Bool
  | .nested _ filter => Filter.isVacuous filter
  | .each _ filters => Filter.allVacuous filters
  | .field _ requirement => requirement.isVacuous

/-- No entry asks for anything. -/
def Filter.isVacuous : List Entry → Bool
  | [] => true
  | entry :: rest => entry.isVacuous && Filter.isVacuous rest

def Filter.allVacuous : List (List Entry) → Bool
  | [] => true
  | filter :: rest => Filter.isVacuous filter && Filter.allVacuous rest

end

mutual

def Requirement.pruned : Requirement → Requirement
  | .equals value => .equals value
  | .tests tests => .tests (Test.allPruned tests)

def Requirement.allPruned : List Requirement → List Requirement
  | [] => []
  | item :: rest =>
    if item.isVacuous then Requirement.allPruned rest else item.pruned :: Requirement.allPruned rest

def Test.pruned : Test → Test
  | .compare comparison value => .compare comparison value
  | .like operand => .like operand
  | .member values negated => .member values negated
  | .group connective items => .group connective (Requirement.allPruned items)

def Test.allPruned : List Test → List Test
  | [] => []
  | test :: rest =>
    if test.isVacuous then Test.allPruned rest else test.pruned :: Test.allPruned rest

end

mutual

def Entry.pruned : Entry → Entry
  | .nested connective filter => .nested connective (Filter.pruned filter)
  | .each connective filters => .each connective (Filter.allPruned filters)
  | .field name requirement => .field name requirement.pruned

/-- The filter without its vacuous parts, at every depth. -/
def Filter.pruned : List Entry → Filter
  | [] => []
  | entry :: rest =>
    if entry.isVacuous then Filter.pruned rest else entry.pruned :: Filter.pruned rest

def Filter.allPruned : List (List Entry) → List Filter
  | [] => []
  | filter :: rest =>
    if Filter.isVacuous filter then Filter.allPruned rest
    else Filter.pruned filter :: Filter.allPruned rest

end

/-- There is no condition exactly for a vacuous part, and any other part has the same condition when
it is pruned, without a word to the log. -/
structure Survives (vacuous : Bool) (part : Option Clause) (pruned : Outcome (Option Clause)) :
    Prop where
  eq_none_iff : part = none ↔ vacuous = true
  pruned_eq : vacuous = false → pruned = pure part

/-- Conditions of several parts, some of which may be left out. -/
structure SurviveAll (vacuous : Bool) (parts : List Clause) (pruned : Outcome (List Clause)) :
    Prop where
  eq_nil_iff : parts = [] ↔ vacuous = true
  pruned_eq : pruned = pure parts

section Survive

variable {vacuous others : Bool} {part : Option Clause} {parts : List Clause}
  {first : Outcome (Option Clause)} {pruned : Outcome (List Clause)} {connective : Connective}

theorem SurviveAll.nil : SurviveAll true [] (pure []) := ⟨by simp, rfl⟩

/-- A vacuous part is left out, and has contributed nothing. -/
theorem Survives.cons (h : Survives vacuous part first) (hm : SurviveAll others parts pruned) :
    SurviveAll (vacuous && others) (part.toList ++ parts) (if vacuous then pruned else do
      let part ← first
      let parts ← pruned
      pure (part.toList ++ parts)) := by
  obtain ⟨hnil, rfl⟩ := hm
  cases vacuous with
  | true =>
    obtain rfl := h.eq_none_iff.mpr rfl
    exact ⟨by simpa using hnil, rfl⟩
  | false =>
    obtain ⟨clause, rfl⟩ : ∃ clause, part = some clause :=
      Option.ne_none_iff_exists'.mp fun hn => by simpa using h.eq_none_iff.mp hn
    refine ⟨by simp, ?_⟩
    rw [h.pruned_eq rfl]
    rfl

theorem SurviveAll.join (h : SurviveAll vacuous parts pruned) :
    Survives vacuous (Clause.join connective parts) (Clause.join connective <$> pruned) := by
  obtain ⟨hnil, rfl⟩ := h
  exact ⟨by rw [← hnil]; simp [Clause.join], fun _ => map_pure _ _⟩

theorem SurviveAll.enclosed (h : SurviveAll vacuous parts pruned) :
    Survives vacuous (Clause.enclosed connective parts) (Clause.enclosed connective <$> pruned) := by
  obtain ⟨hnil, rfl⟩ := h
  exact ⟨by rw [← hnil]; simp [Clause.enclosed, Clause.join], fun _ => map_pure _ _⟩

end Survive

theorem Filter.vacuousInvariant (policy : NamePolicy) : Filter.Invariant policy
    (fun column joiner requirement part =>
      Survives requirement.isVacuous part (requirement.pruned.clause column joiner))
    (fun column joiner items parts => SurviveAll (Requirement.allVacuous items) parts
      (Requirement.clauses column joiner (Requirement.allPruned items)))
    (fun column test part => Survives test.isVacuous part (test.pruned.clause column))
    (fun column tests parts =>
      SurviveAll (Test.allVacuous tests) parts (Test.clauses column (Test.allPruned tests)))
    (fun entry part => Survives entry.isVacuous part (entry.pruned.clause policy))
    (fun entries parts => SurviveAll (Filter.isVacuous entries) parts
      (Entry.clauses policy (Filter.pruned entries)))
    (fun filters parts => SurviveAll (Filter.allVacuous filters) parts
      (Filter.clauses policy (Filter.allPruned filters))) where
  equals _ _ _ := ⟨by simp [Requirement.isVacuous], fun _ => rfl⟩
  tests _ _ _ _ hp := hp.enclosed
  noRequirements _ _ := .nil
  moreRequirements _ _ _ _ _ _ hp hm := by
    simpa only [Requirement.allVacuous, Requirement.allPruned, apply_ite, Requirement.clauses]
      using hp.cons hm
  compare column comparison value atom ha := by
    have hn : (value.isNull && comparison.isOrdering) = false := by
      rw [Bool.eq_false_iff, ne_eq, ← @Comparison.atom?_eq_none column, ha]
      simp
    exact ⟨by simp [Test.isVacuous, hn], fun _ => by rw [Test.pruned, Test.clause, ha]⟩
  unordered column comparison value ha := by
    have hn : Test.isVacuous (.compare comparison value) = true := Comparison.atom?_eq_none.mp ha
    exact ⟨by simp [hn], fun hf => absurd hn (by simp [hf])⟩
  like column operand pattern hp := by
    refine ⟨by simp [Test.isVacuous], fun _ => ?_⟩
    rw [Test.pruned, Test.clause, hp]
    rfl
  member _ _ _ := ⟨by simp [Test.isVacuous], fun _ => rfl⟩
  group _ _ _ _ hp := hp.join
  noTests _ := .nil
  moreTests _ _ _ _ _ hp hm := by
    simpa only [Test.allVacuous, Test.allPruned, apply_ite, Test.clauses] using hp.cons hm
  nested _ _ _ hp := hp.enclosed
  each _ _ _ hp := hp.enclosed
  field name requirement column part hc hp := by
    refine ⟨hp.eq_none_iff, fun hn => ?_⟩
    rw [Entry.pruned, Entry.clause, hc]
    exact hp.pruned_eq hn
  noEntries := .nil
  moreEntries _ _ _ _ hp hm := by
    simpa only [Filter.isVacuous, Filter.pruned, apply_ite, Entry.clauses] using hp.cons hm
  noFilters := .nil
  moreFilters _ _ _ _ hp hm := by
    simpa only [Filter.allVacuous, Filter.allPruned, apply_ite, Filter.clauses]
      using hp.enclosed.cons hm

namespace Filter

variable {policy : NamePolicy} {connective : Connective} {filter : Filter} {sql : String}

/-- A filter keeps its text when it is pruned, and has one exactly when it is not vacuous. -/
theorem sql_pruned (h : filter.sql policy connective = .ok sql) :
    (sql = "" ↔ isVacuous filter = true) ∧ (pruned filter).sql policy connective = .ok sql := by
  obtain ⟨part, hp, rfl⟩ := Error.map_eq_ok.mp h
  obtain ⟨parts, hs, rfl⟩ := (vacuousInvariant policy).filter_clause hp
  have hc : (pruned filter).clause policy connective = pure (Clause.enclosed connective parts) := by
    rw [Filter.clause, hs.pruned_eq]
    exact map_pure _ _
  refine ⟨?_, by rw [Filter.sql, hc]; rfl⟩
  rw [← (@SurviveAll.enclosed _ _ _ connective hs).eq_none_iff]
  exact ⟨Clause.eq_none_of_optionText, fun hn => by rw [hn]; rfl⟩

/-- A filter has no text exactly when it is vacuous, and keeps its text when every vacuous part is
taken out of it. So a statement has a WHERE exactly for a filter that is not vacuous. -/
theorem vacuous_parts_vanish :
    (∀ (policy : NamePolicy) (connective : Connective) (filter : Filter) (sql : String),
      filter.sql policy connective = .ok sql →
        (sql = "" ↔ isVacuous filter = true) ∧
          (pruned filter).sql policy connective = .ok sql) ∧
    ∀ (settings : Settings) (query : Query) (selection : Selection) (sql : String),
      (settings.statement query selection).result = .ok sql →
        ∃ statement, settings.Assembles query selection statement ∧
          sql = String.ofList (Text.trimEnd (Phrase.spelled statement.phrases)) ∧
          ∀ body, ⟨"WHERE", body⟩ ∈ statement.phrases ↔ ∃ fields filter,
            query.conditions = some (.object fields) ∧
            (read settings.unknownOperators fields).result = .ok filter ∧
            isVacuous filter = false ∧ Filter.sql settings.names .and filter = .ok body := by
  refine ⟨fun _ _ _ _ => sql_pruned, fun settings query selection sql h => ?_⟩
  obtain ⟨statement, ha, rfl⟩ := Settings.statement_eq_ok_iff.mp h
  refine ⟨statement, ha, statement.text_eq_spelled, fun body => ?_⟩
  rw [Statement.mem_where]
  rcases Settings.conditionOf_eq_ok ha.condition with ⟨fields, filter, hq, hr, hc⟩ | ⟨hq, hn⟩
  · have hs : filter.sql settings.names .and = .ok (Clause.optionText statement.condition) :=
      Error.map_eq_ok.mpr ⟨_, hc, rfl⟩
    have hv := (sql_pruned hs).1
    constructor
    · rintro ⟨rfl, hne⟩
      exact ⟨fields, filter, hq, hr, by rwa [ne_eq, hv, Bool.not_eq_true] at hne, hs⟩
    · rintro ⟨fields', filter', hq', hr', hf, hs'⟩
      cases hq.symm.trans hq'
      cases hr.symm.trans hr'
      cases hs.symm.trans hs'
      exact ⟨rfl, by rwa [ne_eq, hv, Bool.not_eq_true]⟩
  · have he : Clause.optionText statement.condition = "" := by rw [hn]; rfl
    constructor
    · rintro ⟨-, hne⟩
      exact absurd he hne
    · rintro ⟨fields, filter, ho, -⟩
      rcases hq with hq | hq <;> cases hq.symm.trans ho

/-- Vacuous tests, items and entries next to others, and a condition object that is vacuous. -/
theorem vacuous_parts_vanish_mixed :
    let filter : Filter := [.field "a.b" (.tests [.compare .lt .null,
      .group .or [.tests [.group .and []], .equals (.ofInt 1)]]),
      .each .or [[], [.nested .and []]], .field "c" (.tests [])]
    let query : Query := { table := "t", conditions := some (.object [("a",
      .object [("$gte", .null), ("$or", .array [.object []])])]) }
    (filter.sql .strict .or = .ok "((`a`.`b` = 1))" ∧
      ("((`a`.`b` = 1))" = "" ↔ isVacuous filter = true) ∧
      (pruned filter).sql .strict .or = .ok "((`a`.`b` = 1))") ∧
    (Settings.statement {} query {}).result = .ok "SELECT * FROM `t`" ∧
    ∃ statement, Settings.Assembles {} query {} statement ∧
      "SELECT * FROM `t`" = String.ofList (Text.trimEnd (Phrase.spelled statement.phrases)) ∧
      ∀ body, ⟨"WHERE", body⟩ ∈ statement.phrases ↔ ∃ fields filter,
        query.conditions = some (.object fields) ∧
        (read .skip fields).result = .ok filter ∧
        isVacuous filter = false ∧ Filter.sql .verbatim .and filter = .ok body := by
  intro filter query
  have hf : filter.sql .strict .or = .ok "((`a`.`b` = 1))" := rfl
  have ha : (Settings.assemble {} query {}).result = .ok {
      projection := .all, table := ⟨["t"]⟩ } := rfl
  have hs : (Settings.statement {} query {}).result = .ok "SELECT * FROM `t`" :=
    Settings.statement_eq_ok_iff.mpr ⟨_, Settings.assembles_of_assemble ha, by decide +kernel⟩
  exact ⟨⟨hf, vacuous_parts_vanish.1 .strict .or filter _ hf⟩, hs,
    vacuous_parts_vanish.2 {} query {} _ hs⟩

end Filter
end JsonSelect
