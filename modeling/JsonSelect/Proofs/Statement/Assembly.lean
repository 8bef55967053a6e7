import JsonSelect.Proofs.Where.Induction
import JsonSelect.Statement

/-! When a statement can be built for a query, and what it holds then. -/
namespace JsonSelect

namespace Selection

variable {selection : Selection} {projection : Projection}

theorem projection_eq_count (h : selection.projection = .ok projection)
    (hs : selection.count = true) : projection = .count := by
  obtain ⟨_, _, h⟩ := Error.bind_eq_ok.mp h
  rw [hs] at h
  cases h
  rfl

theorem projection_ne_count (h : selection.projection = .ok projection)
    (hs : selection.count = false) : projection ≠ .count := by
  rintro rfl
  obtain ⟨_, _, h⟩ := Error.bind_eq_ok.mp h
  rw [hs] at h
  split at h
  next hf => cases hf
  next => split at h <;> cases h

end Selection

namespace Settings

variable {settings : Settings} {query : Query} {selection : Selection} {statement : Statement}
  {sql : String}

/-- The parts of the statement for a query. A count has neither an order nor a limit, whatever the
query says about them. -/
structure Assembles (settings : Settings) (query : Query) (selection : Selection)
    (statement : Statement) : Prop where
  projection : selection.projection = .ok statement.projection
  table_ne : query.table ≠ ""
  table : Identifier.ofName settings.names query.table = .ok statement.table
  condition : (settings.conditionOf query.conditions).result = .ok statement.condition
  groupBy : statement.groupBy = Terms.optionText query.groupBy
  counted : selection.count = true → statement.orderBy = "" ∧ statement.limit = none
  ordered : selection.count = false → statement.orderBy = Terms.optionText query.orderBy ∧
    Limit.ofOption query.limit = .ok statement.limit

/-- Four steps can fail, one after the other. Only the conditions are heard of. -/
theorem assemble_eq (settings : Settings) (query : Query) (selection : Selection) :
    settings.assemble query selection = (do
      let projection ← Outcome.ofExcept selection.projection
      let table ← Outcome.ofExcept (if query.table = "" then .error .missingTable
        else Identifier.ofName settings.names query.table)
      let condition ← settings.conditionOf query.conditions
      let limit ← Outcome.ofExcept (if selection.count then .ok none
        else Limit.ofOption query.limit)
      pure {
        projection, table, condition, groupBy := Terms.optionText query.groupBy
        orderBy := if selection.count then "" else Terms.optionText query.orderBy, limit }) := by
  unfold assemble
  congr 1
  funext projection
  by_cases ht : query.table = ""
  · rw [if_pos ht, if_pos ht]
    rfl
  · rw [if_neg ht, if_neg ht]
    cases selection.count <;> rfl

theorem result_assemble (settings : Settings) (query : Query) (selection : Selection) :
    (settings.assemble query selection).result = (do
      let projection ← selection.projection
      let table ← (if query.table = "" then .error .missingTable
        else Identifier.ofName settings.names query.table)
      let condition ← (settings.conditionOf query.conditions).result
      let limit ← (if selection.count then .ok none else Limit.ofOption query.limit)
      .ok {
        projection, table, condition, groupBy := Terms.optionText query.groupBy
        orderBy := if selection.count then "" else Terms.optionText query.orderBy, limit }) := by
  simp only [assemble_eq, Outcome.result_bind, Outcome.result_ofExcept, Outcome.result_pure]

theorem assembles_of_assemble (h : (settings.assemble query selection).result = .ok statement) :
    settings.Assembles query selection statement := by
  simp only [result_assemble, Error.bind_eq_ok] at h
  obtain ⟨projection, hp, table, ht, condition, hc, limit, hl, he⟩ := h
  cases he
  split at ht
  next => cases ht
  next hne =>
    refine ⟨hp, hne, ht, hc, rfl, fun hs => ?_, fun hs => ?_⟩
    · rw [if_pos hs] at hl
      cases hl
      exact ⟨if_pos hs, rfl⟩
    · rw [if_neg (by simp [hs])] at hl
      exact ⟨if_neg (by simp [hs]), hl⟩

theorem assemble_of_assembles (h : settings.Assembles query selection statement) :
    (settings.assemble query selection).result = .ok statement := by
  obtain ⟨projection, table, condition, groupBy, orderBy, limit⟩ := statement
  obtain ⟨hp, hne, ht, hc, rfl, hcounted, hordered⟩ := h
  simp only [result_assemble, Error.bind_eq_ok]
  refine ⟨projection, hp, table, by rwa [if_neg hne], condition, hc, limit, ?_⟩
  cases hs : selection.count with
  | true =>
    obtain ⟨rfl, rfl⟩ := hcounted hs
    exact ⟨rfl, rfl⟩
  | false =>
    obtain ⟨rfl, hl⟩ := hordered hs
    exact ⟨hl, rfl⟩

theorem assemble_eq_ok_iff : (settings.assemble query selection).result = .ok statement ↔
    settings.Assembles query selection statement :=
  ⟨assembles_of_assemble, assemble_of_assembles⟩

@[simp] theorem result_report (kind : SelectKind) (table text : String) :
    (settings.report kind table text).result = .ok () := by
  unfold report
  split <;> rfl

/-- The log has no say in the text. -/
theorem statement_eq_ok_iff : (settings.statement query selection).result = .ok sql ↔
    ∃ statement, settings.Assembles query selection statement ∧ statement.text = sql := by
  simp only [Settings.statement, Outcome.result_bind, Error.bind_eq_ok, result_report,
    Outcome.result_pure, Except.ok.injEq, assemble_eq_ok_iff]
  simp

/-- A count looks at neither the order nor the limit. -/
theorem assemble_of_count (settings : Settings) (query : Query) (orderBy : Option Terms)
    (limit : Option Json) (hs : selection.count = true) :
    settings.assemble { query with orderBy, limit } selection =
      settings.assemble query selection := by
  unfold assemble
  rw [hs]
  rfl

theorem statement_of_count (settings : Settings) (query : Query) (orderBy : Option Terms)
    (limit : Option Json) (hs : selection.count = true) :
    settings.statement { query with orderBy, limit } selection =
      settings.statement query selection := by
  rw [Settings.statement, assemble_of_count settings query orderBy limit hs, Settings.statement]

end Settings
end JsonSelect
