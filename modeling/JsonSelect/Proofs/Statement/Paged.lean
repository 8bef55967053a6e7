import JsonSelect.Proofs.Page
import JsonSelect.Proofs.Statement.Admission
import JsonSelect.Proofs.Sql.Numeral

/-! The two statements of a page. They select from the same table under the same conditions. -/
namespace JsonSelect

namespace Statement

variable {statement : Statement} {limit : Limit}

/-- What stands between the list that is selected and the order: the table, the condition and the
grouping. -/
def middle (statement : Statement) : String :=
  " FROM " ++ statement.table.text ++ " " ++
    part "WHERE" (Clause.optionText statement.condition) ++ part "GROUP BY" statement.groupBy

/-- The table, the condition and the grouping, with their keywords written out. -/
theorem middle_eq (statement : Statement) : statement.middle =
    " FROM " ++ statement.table.text ++ " " ++
      (if Clause.optionText statement.condition = "" then ""
        else "WHERE " ++ Clause.optionText statement.condition ++ " ") ++
      (if statement.groupBy = "" then "" else "GROUP BY " ++ statement.groupBy ++ " ") :=
  rfl

theorem parts_eq (statement : Statement) : statement.parts =
    "SELECT " ++ statement.projection.text ++ statement.middle ++
      part "ORDER BY" statement.orderBy ++ statement.limitPart := by
  delta parts middle
  simp only [String.append_assoc]

/-- A part leaves a blank at the end of what it is added to. -/
theorem exists_append_part (start keyword body : String) :
    ∃ text, start ++ " " ++ part keyword body = text ++ " " := by
  unfold part
  split
  · exact ⟨start, String.append_empty⟩
  · exact ⟨start ++ " " ++ (keyword ++ " " ++ body), by simp only [String.append_assoc]⟩

theorem exists_middle_eq (statement : Statement) : ∃ text, statement.middle = text ++ " " := by
  obtain ⟨text, ht⟩ := exists_append_part (" FROM " ++ statement.table.text) "WHERE"
    (Clause.optionText statement.condition)
  obtain ⟨more, hm⟩ := exists_append_part text "GROUP BY" statement.groupBy
  exact ⟨more, by rw [middle, ht, hm]⟩

theorem exists_toString_eq (n : Int) :
    ∃ text c, (toString n).toList = text ++ [c] ∧ c.isDigit = true := by
  obtain ⟨hne, hd⟩ := Sql.isDigits_toDigits n.natAbs
  have hl := List.dropLast_concat_getLast hne
  rw [Text.toList_toString, ← hl, ← List.append_assoc]
  exact ⟨_, _, rfl, hd _ (List.getLast_mem hne)⟩

/-- Nothing is trimmed from a statement that ends with the digits of a limit. -/
theorem text_of_limit (h : statement.limit = some limit) : statement.text =
    "SELECT " ++ statement.projection.text ++ statement.middle ++
      part "ORDER BY" statement.orderBy ++ "LIMIT " ++ toString limit.skip ++ ", " ++
      toString limit.size := by
  obtain ⟨digits, c, hd, hc⟩ := exists_toString_eq limit.size
  have hp : statement.parts = "SELECT " ++ statement.projection.text ++ statement.middle ++
      part "ORDER BY" statement.orderBy ++ "LIMIT " ++ toString limit.skip ++ ", " ++
      toString limit.size := by
    simp only [parts_eq, limitPart, h, Limit.text, Limit.sizeText, String.append_assoc]
  rw [text, ← hp]
  have hl : ∃ start, statement.parts.toList = start ++ [c] := by
    rw [hp, String.toList_append, hd]
    exact ⟨_, (List.append_assoc _ _ _).symm⟩
  obtain ⟨start, hs⟩ := hl
  rw [hs, Text.trimEnd_append_of_not_isBlank (Text.isBlank_of_isDigit hc), ← hs,
    String.ofList_toList]

theorem text_of_no_order (ho : statement.orderBy = "") (hl : statement.limit = none) :
    statement.text = String.ofList (Text.trimEnd
      ("SELECT " ++ statement.projection.text ++ statement.middle).toList) := by
  rw [text, parts_eq, limitPart, hl, ho]
  simp only [part, if_true, String.append_empty]

end Statement

namespace Settings

variable {settings : Settings} {query : Query} {selection : Selection} {page size : PageInput}
  {statement : Statement} {limit : Limit} {paged : Paged}

/-- Among statements for rows, those for queries that differ in their limit differ in it alone. -/
theorem Assembles.setLimit (h : settings.Assembles query selection statement)
    (hs : selection.count = false) {value : Option Json} {limit : Option Limit}
    (hl : Limit.ofOption value = .ok limit) :
    settings.Assembles { query with limit := value } selection { statement with limit } where
  projection := h.projection
  table_ne := h.table_ne
  table := h.table
  condition := h.condition
  groupBy := h.groupBy
  counted hc := by simp [hs] at hc
  ordered _ := ⟨(h.ordered hs).1, hl⟩

/-- Where rows can be selected, they can be counted. -/
theorem Assembles.counting (h : settings.Assembles query selection statement) :
    settings.Assembles query { count := true } { statement with
      projection := .count, orderBy := "", limit := none } where
  projection := rfl
  table_ne := h.table_ne
  table := h.table
  condition := h.condition
  groupBy := h.groupBy
  counted _ := ⟨rfl, rfl⟩
  ordered hc := by cases hc

/-- A page is built when its limit and both of its statements are. -/
theorem paged_eq_ok_iff : (settings.paged query selection page size).result = .ok paged ↔
    selection.count = false ∧ Limit.ofPage page size = .ok paged.limit ∧
      (settings.statement { query with limit := some paged.limit.toJson } selection).result =
        .ok paged.rows ∧
      (settings.statement query { count := true }).result = .ok paged.count := by
  unfold Settings.paged
  cases hs : selection.count with
  | true => simp [Outcome.result_bind, Error.bind_eq_ok]
  | false =>
    simp only [Bool.false_eq_true, if_false, Outcome.liftM_eq, Outcome.result_bind,
      Error.bind_eq_ok, Outcome.result_ofExcept, Outcome.result_pure, Except.ok.injEq, true_and]
    constructor
    · rintro ⟨limit, hl, rows, hr, count, hc, rfl⟩
      exact ⟨hl, hr, hc⟩
    · rintro ⟨hl, hr, hc⟩
      exact ⟨paged.limit, hl, paged.rows, hr, paged.count, hc, rfl⟩

/-- With a limit for the page, both statements are built where the rows without it are. -/
theorem exists_paged (hs : selection.count = false) (hl : Limit.ofPage page size = .ok limit)
    (h : settings.Assembles { query with limit := none } selection statement) :
    (settings.paged query selection page size).result = .ok
      { rows := { statement with limit := some limit }.text
        count := { statement with projection := .count, orderBy := "", limit := none }.text
        limit } := by
  have hr := h.setLimit hs (Limit.ofOption_toJson (Limit.inRange_of_ofPage hl))
  have hc := statement_eq_ok_iff.mpr ⟨_, h.counting, rfl⟩
  rw [statement_of_count settings query query.orderBy none rfl] at hc
  exact paged_eq_ok_iff.mpr ⟨hs, hl, statement_eq_ok_iff.mpr ⟨_, hr, rfl⟩, hc⟩

/-- Rows that can be selected with a limit can be selected without one. -/
theorem exists_unlimited (hs : selection.count = false) {value : Option Json} {sql : String}
    (h : (settings.statement { query with limit := value } selection).result = .ok sql) :
    ∃ statement, settings.Assembles { query with limit := none } selection statement := by
  obtain ⟨statement, ha, _⟩ := statement_eq_ok_iff.mp h
  exact ⟨{ statement with limit := none }, ha.setLimit hs rfl⟩

/-- Both statements of a page come from the one for its rows without a limit. -/
theorem exists_of_paged (h : (settings.paged query selection page size).result = .ok paged) :
    selection.count = false ∧ Limit.ofPage page size = .ok paged.limit ∧ ∃ statement,
      settings.Assembles { query with limit := none } selection statement ∧
      paged.rows = { statement with limit := some paged.limit }.text ∧
      paged.count = { statement with projection := .count, orderBy := "", limit := none }.text := by
  obtain ⟨hs, hl, hr, _⟩ := paged_eq_ok_iff.mp h
  obtain ⟨statement, hn⟩ := exists_unlimited hs hr
  have he := Except.ok.inj (h.symm.trans (exists_paged hs hl hn))
  obtain ⟨rows, count, limit⟩ := paged
  obtain ⟨hrows, hcount, -⟩ := Paged.mk.inj he
  exact ⟨hs, hl, statement, hn, hrows, hcount⟩

/-- A page is built exactly when it is one of rows, its limit exists, and the rows without a limit
can be selected. Its statements share all that stands between the selected list and the order, and
the limit of the query is not looked at. -/
theorem paged_shares_middle (settings : Settings) (query : Query) (selection : Selection)
    (page size : PageInput) :
    ((∃ paged, (settings.paged query selection page size).result = .ok paged) ↔
      selection.count = false ∧ (∃ limit, Limit.ofPage page size = .ok limit) ∧
        ∃ sql, (settings.statement { query with limit := none } selection).result = .ok sql) ∧
    (∀ paged, (settings.paged query selection page size).result = .ok paged →
      Limit.ofPage page size = .ok paged.limit ∧
      ∃ projection table condition middle, selection.projection = .ok projection ∧
        projection.text = (if selection.fields.getD [] ≠ [] then
            ",".intercalate (selection.fields.getD [])
          else if selection.distincts.getD [] ≠ [] then
            "DISTINCT " ++ ",".intercalate (selection.distincts.getD [])
          else "*") ∧
        Identifier.ofName settings.names query.table = .ok table ∧
        (settings.conditionOf query.conditions).result = .ok condition ∧
        middle = " FROM " ++ table.text ++ " " ++
          (if Clause.optionText condition = "" then ""
            else "WHERE " ++ Clause.optionText condition ++ " ") ++
          (if Terms.optionText query.groupBy = "" then ""
            else "GROUP BY " ++ Terms.optionText query.groupBy ++ " ") ∧
        (∃ text, middle = text ++ " ") ∧
        paged.count = String.ofList (Text.trimEnd ("SELECT COUNT(0)" ++ middle).toList) ∧
        paged.rows = "SELECT " ++ projection.text ++ middle ++
          (if Terms.optionText query.orderBy = "" then ""
            else "ORDER BY " ++ Terms.optionText query.orderBy ++ " ") ++
          "LIMIT " ++ toString paged.limit.skip ++ ", " ++ toString paged.limit.size) ∧
    ∀ limit, settings.paged { query with limit } selection page size =
      settings.paged query selection page size := by
  refine ⟨⟨?_, ?_⟩, ?_, fun _ => rfl⟩
  · rintro ⟨paged, h⟩
    obtain ⟨hs, hl, statement, ha, _⟩ := exists_of_paged h
    exact ⟨hs, ⟨_, hl⟩, _, statement_eq_ok_iff.mpr ⟨statement, ha, rfl⟩⟩
  · rintro ⟨hs, ⟨limit, hl⟩, sql, hr⟩
    obtain ⟨statement, ha, _⟩ := statement_eq_ok_iff.mp hr
    exact ⟨_, exists_paged hs hl ha⟩
  · intro paged h
    obtain ⟨hs, hl, statement, ha, hr, hc⟩ := exists_of_paged h
    refine ⟨hl, statement.projection, statement.table, statement.condition, statement.middle,
      ha.projection, Selection.text_projection ha.projection hs, ha.table, ha.condition, ?_,
      statement.exists_middle_eq, ?_, ?_⟩
    · rw [statement.middle_eq, ha.groupBy]
    · rw [hc, Statement.text_of_no_order rfl rfl]
      rfl
    · rw [hr, Statement.text_of_limit rfl, ← (ha.ordered hs).1]
      rfl

/-- A page with a condition, a grouping and an order. The count has the first two. -/
theorem paged_shares_middle_all_clauses :
    let query : Query := {
      table := "t", conditions := some (.object [("a", .number (.integer 1))])
      groupBy := some (.list ["b", "c"]), orderBy := some (.raw "d DESC") }
    let selection : Selection := { distincts := some ["b", "c"] }
    let middle := " FROM `t` WHERE (`a` = 1) GROUP BY b,c "
    ∃ paged, (Settings.paged {} query selection (.integer 2) (.integer 10)).result = .ok paged ∧
      paged.limit = ⟨10, 10⟩ ∧ (∃ text, middle = text ++ " ") ∧
      paged.count = String.ofList (Text.trimEnd ("SELECT COUNT(0)" ++ middle).toList) ∧
      paged.rows = "SELECT DISTINCT b,c" ++ middle ++ "ORDER BY d DESC LIMIT 10, 10" := by
  intro query selection middle
  obtain ⟨⟨-, hbuilt⟩, hparts, -⟩ :=
    paged_shares_middle {} query selection (.integer 2) (.integer 10)
  obtain ⟨paged, h⟩ := hbuilt ⟨rfl, ⟨_, rfl⟩, _, rfl⟩
  obtain ⟨hl, projection, table, condition, _, hp, -, ht, hc, rfl, hend, hcount, hrows⟩ :=
    hparts paged h
  have hlimit : paged.limit = ⟨10, 10⟩ := (Except.ok.inj hl).symm
  -- Each part is what the query and the selection have for it.
  cases hp
  cases ht
  cases hc
  rw [hlimit] at hrows
  exact ⟨paged, h, hlimit, hend, hcount, hrows.trans (by decide +kernel)⟩

example : (Settings.paged {} { table := "t", orderBy := some (.raw "id"), limit := some .null }
    {} (.integer 2) (.integer 10)).result.toOption.map (fun paged => (paged.rows, paged.count)) =
    some ("SELECT * FROM `t` ORDER BY id LIMIT 10, 10", "SELECT COUNT(0) FROM `t`") := by
  decide +kernel

end Settings
end JsonSelect
