import JsonSelect.Proofs.Identifier
import JsonSelect.Proofs.Limit
import JsonSelect.Proofs.Statement.Assembly

/-! What a query has to meet so that a statement is built for it, and the error where it does not. -/
namespace JsonSelect

namespace Selection

/-- No two projections are asked for. -/
structure IsSingle (selection : Selection) : Prop where
  fields_count : ¬ (isSet selection.fields = true ∧ selection.count = true)
  fields_distincts : ¬ (isSet selection.fields = true ∧ isSet selection.distincts = true)
  count_distincts : ¬ (selection.count = true ∧ isSet selection.distincts = true)

theorem isSingle_iff {selection : Selection} : selection.IsSingle ↔ selection.requests ≤ 1 := by
  have h : selection.IsSingle ↔ ¬ (isSet selection.fields = true ∧ selection.count = true) ∧
      ¬ (isSet selection.fields = true ∧ isSet selection.distincts = true) ∧
      ¬ (selection.count = true ∧ isSet selection.distincts = true) :=
    ⟨fun h => ⟨h.1, h.2, h.3⟩, fun h => ⟨h.1, h.2.1, h.2.2⟩⟩
  rw [h, requests]
  generalize isSet selection.fields = a, selection.count = b, isSet selection.distincts = c
  revert a b c
  decide

theorem decides_check (selection : Selection) :
    Decides selection.check selection.IsSingle (·.kind = .config) := by
  unfold check
  split
  next h => exact .fail (fun hs => by have := isSingle_iff.mp hs; omega) rfl
  next h => exact .ok (isSingle_iff.mpr (by omega))

theorem decides_projection (selection : Selection) :
    Decides selection.projection selection.IsSingle (·.kind = .config) := by
  refine (decides_check selection).bind_ok fun _ => ?_
  split
  · exact ⟨_, rfl⟩
  · split <;> exact ⟨_, rfl⟩

theorem isSet_eq_false_iff {columns : Option (List String)} :
    isSet columns = false ↔ ∀ column more, columns ≠ some (column :: more) := by
  rcases columns with _ | _ | ⟨column, more⟩ <;> simp [isSet]

/-- What is selected, with what is set for it and what is not. -/
theorem projection_cases {selection : Selection} {projection : Projection}
    (h : selection.projection = .ok projection) :
    (projection = .count ∧ selection.count = true ∧
      isSet selection.fields = false ∧ isSet selection.distincts = false) ∨
    (∃ column more, projection = .fields (column :: more) ∧ selection.count = false ∧
      selection.fields = some (column :: more) ∧ isSet selection.distincts = false) ∨
    (∃ column more, projection = .distinct (column :: more) ∧ selection.count = false ∧
      isSet selection.fields = false ∧ selection.distincts = some (column :: more)) ∨
    (projection = .all ∧ selection.count = false ∧
      isSet selection.fields = false ∧ isSet selection.distincts = false) := by
  have hs : selection.IsSingle := selection.decides_projection.exists_ok_iff.mp ⟨_, h⟩
  obtain ⟨_, _, h⟩ := Error.bind_eq_ok.mp h
  split at h
  next hc =>
    cases h
    exact .inl ⟨rfl, hc, by simpa [hc] using hs.fields_count, by simpa [hc] using hs.count_distincts⟩
  next hc =>
    rw [Bool.not_eq_true] at hc
    split at h
    next column more hf =>
      cases h
      have hd : isSet selection.distincts = false := by
        simpa [hf, isSet] using hs.fields_distincts
      exact .inr (.inl ⟨column, more, rfl, hc, hf, hd⟩)
    next column more hd hf =>
      cases h
      exact .inr (.inr (.inl ⟨column, more, rfl, hc, isSet_eq_false_iff.mpr hf, hd⟩))
    next hf hd =>
      cases h
      exact .inr (.inr (.inr ⟨rfl, hc, isSet_eq_false_iff.mpr hf, isSet_eq_false_iff.mpr hd⟩))

theorem getD_eq_nil {columns : Option (List String)} (h : isSet columns = false) :
    columns.getD [] = [] := by
  rcases columns with _ | _ | ⟨column, more⟩
  · rfl
  · rfl
  · cases h

/-- Rows are selected with the columns that are listed, or else with those to tell apart, or else
with all. -/
theorem text_projection {selection : Selection} {projection : Projection}
    (h : selection.projection = .ok projection) (hs : selection.count = false) :
    projection.text =
      if selection.fields.getD [] ≠ [] then ",".intercalate (selection.fields.getD [])
      else if selection.distincts.getD [] ≠ [] then
        "DISTINCT " ++ ",".intercalate (selection.distincts.getD [])
      else "*" := by
  rcases projection_cases h with ⟨-, hc, -⟩ | ⟨column, more, rfl, -, hf, -⟩ |
    ⟨column, more, rfl, -, hf, hd⟩ | ⟨rfl, -, hf, hd⟩
  · rw [hs] at hc
    cases hc
  · simp [Projection.text, hf]
  · simp [Projection.text, getD_eq_nil hf, hd]
  · simp [Projection.text, getD_eq_nil hf, getD_eq_nil hd]

end Selection

namespace Settings

variable {settings : Settings} {query : Query} {selection : Selection}

/-- Conditions that are read under the policy for operators, and built under the one for names. -/
inductive TakesConditions (settings : Settings) : Option Json → Prop where
  | absent : TakesConditions settings none
  | null : TakesConditions settings (some .null)
  | object {fields : Fields} {filter : Filter} {clause : Option Clause}
    (hr : (Filter.read settings.unknownOperators fields).result = .ok filter)
    (hc : (filter.clause settings.names .and).result = .ok clause) :
    TakesConditions settings (some (.object fields))

/-- The error of the conditions themselves: from their shape, or from reading or building them. -/
inductive FailsWith (settings : Settings) : Option Json → Error → Prop where
  | shape {value : Json} (hn : value ≠ .null) (ho : ∀ fields, value ≠ .object fields) :
    FailsWith settings (some value) (.conditionsShape value)
  | reading {fields : Fields} {error : Error}
    (hr : (Filter.read settings.unknownOperators fields).result = .error error) :
    FailsWith settings (some (.object fields)) error
  | building {fields : Fields} {filter : Filter} {error : Error}
    (hr : (Filter.read settings.unknownOperators fields).result = .ok filter)
    (hc : (filter.clause settings.names .and).result = .error error) :
    FailsWith settings (some (.object fields)) error

theorem decides_conditionOf (settings : Settings) (conditions : Option Json) :
    Decides (settings.conditionOf conditions).result (settings.TakesConditions conditions)
      (settings.FailsWith conditions) := by
  unfold conditionOf
  split
  next => exact .ok .absent
  next => exact .ok .null
  next fields =>
    rw [condition, Outcome.result_bind]
    cases hr : (Filter.read settings.unknownOperators fields).result with
    | error error =>
      refine .fail (fun h => ?_) (.reading hr)
      cases h with
      | object hr' hc' => cases hr.symm.trans hr'
    | ok filter =>
      change Decides (filter.clause settings.names .and).result _ _
      cases hc : (filter.clause settings.names .and).result with
      | ok clause => exact .ok (.object hr hc)
      | error error =>
        refine .fail (fun h => ?_) (.building hr hc)
        cases h with
        | object hr' hc' =>
          cases hr.symm.trans hr'
          cases hc.symm.trans hc'
  next value hn ho =>
    refine .fail (fun h => ?_) (.shape hn ho)
    cases h with
    | null => exact hn rfl
    | object hr hc => exact ho _ rfl

def TakesTable (settings : Settings) (table : String) : Prop :=
  table ≠ "" ∧ (settings.names = .strict → Identifier.IsDotted table)

/-- The demands on a query, in the order they are looked at. A count does not look at the limit. -/
structure Admits (settings : Settings) (query : Query) (selection : Selection) : Prop where
  projection : selection.IsSingle
  table : settings.TakesTable query.table
  conditions : settings.TakesConditions query.conditions
  limit : selection.count = true ∨ Limit.IsDescription query.limit

theorem admits_iff : settings.Admits query selection ↔
    selection.IsSingle ∧ settings.TakesTable query.table ∧
      settings.TakesConditions query.conditions ∧
      (selection.count = true ∨ Limit.IsDescription query.limit) :=
  ⟨fun h => ⟨h.projection, h.table, h.conditions, h.limit⟩,
    fun ⟨hs, ht, hc, hl⟩ => ⟨hs, ht, hc, hl⟩⟩

/-- The error of the first demand that is not met. -/
inductive Refuses (settings : Settings) (query : Query) (selection : Selection) : Error → Prop where
  | projection {error : Error} (hs : ¬ selection.IsSingle) (hk : error.kind = .config) :
    Refuses settings query selection error
  | noTable {error : Error} (hs : selection.IsSingle) (ht : query.table = "")
    (hk : error.kind = .config) : Refuses settings query selection error
  | table {error : Error} (hs : selection.IsSingle) (hn : query.table ≠ "")
    (ht : ¬ settings.TakesTable query.table) (hk : error.kind = .validation) :
    Refuses settings query selection error
  | conditions {error : Error} (hs : selection.IsSingle) (ht : settings.TakesTable query.table)
    (hc : ¬ settings.TakesConditions query.conditions)
    (he : settings.FailsWith query.conditions error) : Refuses settings query selection error
  | limit {error : Error} (hs : selection.IsSingle) (ht : settings.TakesTable query.table)
    (hc : settings.TakesConditions query.conditions) (hn : selection.count = false)
    (hl : ¬ Limit.IsDescription query.limit) (hk : error.kind = .config) :
    Refuses settings query selection error

theorem decides_table (settings : Settings) (table : String) :
    Decides (if table = "" then .error .missingTable else Identifier.ofName settings.names table)
      (settings.TakesTable table)
      fun error => error.kind = if table = "" then .config else .validation := by
  split
  next ht => exact .fail (fun h => h.1 ht) rfl
  next ht =>
    exact (Identifier.decides_ofName settings.names table).congr ⟨fun h => ⟨ht, h⟩, And.right⟩

theorem decides_limit (count : Bool) (limit : Option Json) :
    Decides (if count then .ok none else Limit.ofOption limit)
      (count = true ∨ Limit.IsDescription limit) (·.kind = .config) := by
  cases count with
  | true => exact .ok (.inl rfl)
  | false => exact (Limit.decides_ofOption limit).congr (by simp)

theorem decides_assemble (settings : Settings) (query : Query) (selection : Selection) :
    Decides (settings.assemble query selection).result (settings.Admits query selection)
      (settings.Refuses query selection) := by
  rw [result_assemble]
  have hs := selection.decides_projection
  have ht := decides_table settings query.table
  have hc := settings.decides_conditionOf query.conditions
  have hl := decides_limit selection.count query.limit
  refine ((hs.bind fun _ _ => ht.bind fun _ _ => hc.bind fun _ _ => hl.bind_ok fun _ =>
    ⟨_, rfl⟩).congr admits_iff.symm).mono fun error _ h => ?_
  rcases h with ⟨hs, hk⟩ | ⟨hs, -, ⟨ht, hk⟩ | ⟨ht, -, ⟨hc, he⟩ | ⟨hc, hl, hk⟩⟩⟩
  · exact .projection hs hk
  · by_cases hn : query.table = ""
    · exact .noTable hs hn (by rwa [if_pos hn] at hk)
    · exact .table hs hn ht (by rwa [if_neg hn] at hk)
  · exact .conditions hs ht hc he
  · obtain ⟨hn, hl⟩ := not_or.mp hl
    exact .limit hs ht hc (by simpa using hn) hl hk

theorem decides_statement (settings : Settings) (query : Query) (selection : Selection) :
    Decides (settings.statement query selection).result (settings.Admits query selection)
      (settings.Refuses query selection) := by
  simp only [Settings.statement, Outcome.result_bind, result_report, Outcome.result_pure]
  exact (settings.decides_assemble query selection).bind_ok fun _ => ⟨_, rfl⟩

/-- A statement is built exactly where every demand is met, and elsewhere the error is that of the
first one that is not. -/
theorem statement_ok_iff_admits (settings : Settings) (query : Query) (selection : Selection) :
    ((∃ sql, (settings.statement query selection).result = .ok sql) ↔
      settings.Admits query selection) ∧
    (∀ error, (settings.statement query selection).result = .error error →
      settings.Refuses query selection error) ∧
    (selection.count = true → ∀ orderBy limit,
      settings.statement { query with orderBy, limit } selection =
        settings.statement query selection) := by
  have hd := settings.decides_statement query selection
  exact ⟨hd.exists_ok_iff, fun _ => hd.of_error,
    fun hs orderBy limit => statement_of_count settings query orderBy limit hs⟩

example : (Settings.statement {} { table := "t", limit := some (.bool true) }
    { count := true }).result.toOption = some "SELECT COUNT(0) FROM `t`" := by
  decide +kernel

end Settings
end JsonSelect
