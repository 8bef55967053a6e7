import JsonSelect.Proofs.Statement.Paged
import JsonSelect.Proofs.Where.Events

/-! The log of finished statements. It changes nothing else, and it gets every statement that is
finished and no other. -/
namespace JsonSelect

/-- Whether rows or a count of them are asked for. -/
def Selection.kind (selection : Selection) : SelectKind :=
  if selection.count then .count else .select

namespace Settings

open Outcome

variable {settings : Settings} {query : Query} {selection : Selection} {page size : PageInput}
  {statement : Statement} {limit : Limit} {paged : Paged} {error : Error} {sql : String}

section Reporting

variable {logger : Logger} {kind : SelectKind} {table text : String}

theorem events_report (h : settings.logger = some logger) :
    (settings.report kind table text).events =
      [.built logger.level kind table (logger.shorten text)] := by
  rw [report, h]
  rfl

theorem events_report_of_none (h : settings.logger = none) :
    (settings.report kind table text).events = [] := by
  rw [report, h]
  rfl

theorem staysOn_report (settings : Settings) (kind : SelectKind) (table text : String) :
    (settings.report kind table text).StaysOn .statements := by
  unfold report
  split
  · exact staysOn_pure ()
  · exact staysOn_emit rfl

theorem heard_report (settings : Settings) (kind : SelectKind) (table text : String) :
    (settings.report kind table text).heard .conditions = [] :=
  heard_of_staysOn (staysOn_report settings kind table text) nofun

end Reporting

section Transparency

variable (settings : Settings) (query : Query) (selection : Selection) (logger : Option Logger)

theorem agrees_report (kind : SelectKind) (table text : String) :
    (settings.report kind table text).Agrees .conditions
      ({ settings with logger }.report kind table text) where
  result_eq := by rw [result_report, result_report]
  heard_eq := by rw [heard_report, heard_report]

theorem agrees_statement : (settings.statement query selection).Agrees .conditions
    ({ settings with logger }.statement query selection) :=
  (Agrees.refl (settings.assemble query selection)).bind fun _ =>
    (agrees_report settings logger _ _ _).bind fun _ => .refl _

theorem agrees_paged (page size : PageInput) :
    (settings.paged query selection page size).Agrees .conditions
      ({ settings with logger }.paged query selection page size) := by
  unfold Settings.paged
  split
  · exact .refl _
  · exact (Agrees.refl (ofExcept _)).bind fun limit =>
      (agrees_statement settings _ selection logger).bind fun rows =>
        (agrees_statement settings query _ logger).bind fun count => .refl _

end Transparency

theorem Assembles.kind_eq (h : settings.Assembles query selection statement) :
    statement.kind = selection.kind := by
  have hp := h.projection
  unfold Statement.kind Selection.kind
  cases hs : selection.count with
  | true =>
    rw [Selection.projection_eq_count hp hs]
    rfl
  | false =>
    have hne := Selection.projection_ne_count hp hs
    split
    next he => exact absurd he hne
    next => rfl

/-- Only the conditions are heard of before a statement is finished. -/
theorem staysOn_assemble (settings : Settings) (query : Query) (selection : Selection) :
    (settings.assemble query selection).StaysOn .conditions := by
  rw [assemble_eq]
  exact (staysOn_ofExcept _).bind fun _ _ => (staysOn_ofExcept _).bind fun _ _ =>
    (settings.staysOn_conditionOf query.conditions).bind fun _ _ =>
      (staysOn_ofExcept _).bind fun _ _ => staysOn_pure _

theorem events_assemble (h : settings.Assembles query selection statement) :
    (settings.assemble query selection).events =
      (settings.conditionOf query.conditions).events := by
  have hl : (if selection.count then .ok none else Limit.ofOption query.limit) =
      Except.ok statement.limit := by
    cases hs : selection.count with
    | true => exact congrArg Except.ok (h.counted hs).2.symm
    | false => exact (h.ordered hs).2
  rw [assemble_eq, h.projection, if_neg h.table_ne, h.table, hl]
  change (settings.conditionOf query.conditions >>= fun condition => _).events = _
  rw [events_bind_of_ok _ h.condition]
  exact List.append_nil _

/-- A statement that is finished is heard of once, after its conditions. -/
theorem events_statement (h : (settings.statement query selection).result = .ok sql) :
    (settings.statement query selection).events =
      (settings.conditionOf query.conditions).events ++
        (settings.report selection.kind query.table sql).events := by
  obtain ⟨statement, ha, rfl⟩ := statement_eq_ok_iff.mp h
  rw [Settings.statement, events_bind_of_ok _ (assemble_of_assembles ha),
    events_bind_of_ok _ (result_report _ _ _), events_pure, List.append_nil, events_assemble ha,
    ha.kind_eq]

theorem staysOn_statement (h : (settings.statement query selection).result = .error error) :
    (settings.statement query selection).StaysOn .conditions := by
  refine (staysOn_assemble settings query selection).bind fun statement hs => ?_
  rw [statement_eq_ok_iff.mpr ⟨statement, assembles_of_assemble hs, rfl⟩] at h
  cases h

theorem paged_of_limit (hs : selection.count = false) (hl : Limit.ofPage page size = .ok limit) :
    settings.paged query selection page size = (do
      let rows ← settings.statement { query with limit := some limit.toJson } selection
      let count ← settings.statement query { count := true }
      pure { rows, count, limit }) := by
  unfold Settings.paged
  rw [hs, hl]
  rfl

/-- Each of the two statements is heard of after its own conditions. -/
theorem events_paged (h : (settings.paged query selection page size).result = .ok paged) :
    (settings.paged query selection page size).events =
      (settings.conditionOf query.conditions).events ++
        (settings.report .select query.table paged.rows).events ++
      ((settings.conditionOf query.conditions).events ++
        (settings.report .count query.table paged.count).events) := by
  obtain ⟨hs, hl, hr, hc⟩ := paged_eq_ok_iff.mp h
  have hk : selection.kind = .select := by rw [Selection.kind, hs]; rfl
  rw [paged_of_limit hs hl, events_bind_of_ok _ hr, events_bind_of_ok _ hc, events_pure,
    List.append_nil, events_statement hr, events_statement hc, hk]
  rfl

/-- The statement for the rows is not finished if the one for their number fails. -/
theorem staysOn_paged (h : (settings.paged query selection page size).result = .error error) :
    (settings.paged query selection page size).StaysOn .conditions := by
  cases hs : selection.count with
  | true =>
    unfold Settings.paged
    rw [hs]
    exact staysOn_fail _
  | false =>
    cases hl : Limit.ofPage page size with
    | error error =>
      unfold Settings.paged
      rw [hs, hl]
      exact staysOn_fail _
    | ok limit =>
      cases hr : (settings.statement { query with limit := some limit.toJson } selection).result
        with
      | error error =>
        rw [paged_of_limit hs hl, StaysOn, events_bind_of_error _ hr]
        exact staysOn_statement hr
      | ok rows =>
        obtain ⟨statement, hn⟩ := exists_unlimited hs hr
        rw [exists_paged hs hl hn] at h
        cases h

section Quiet

variable (hl : settings.logger = none)

include hl

theorem staysOn_statement_of_none : (settings.statement query selection).StaysOn .conditions :=
  (staysOn_assemble settings query selection).bind fun _ _ =>
    (staysOn_of_nil (events_report_of_none hl)).bind fun _ _ => staysOn_pure _

theorem staysOn_paged_of_none :
    (settings.paged query selection page size).StaysOn .conditions := by
  unfold Settings.paged
  split
  · exact staysOn_fail _
  · exact (staysOn_ofExcept _).bind fun _ _ => (staysOn_statement_of_none hl).bind fun _ _ =>
      (staysOn_statement_of_none hl).bind fun _ _ => staysOn_pure _

end Quiet

/-- The log changes neither an answer nor what is heard of the conditions. It gets a finished
statement once, right when it is finished, and both statements of a page, each after its own
conditions. It gets nothing on the way to an error, and without a logger there is nothing to get. -/
theorem log_gets_finished_statements (settings : Settings) (query : Query) (selection : Selection)
    (page size : PageInput) :
    let statement := settings.statement query selection
    let paged := settings.paged query selection page size
    let conditions := (settings.conditionOf query.conditions).events
    (∀ logger, statement.Agrees .conditions ({ settings with logger }.statement query selection) ∧
      paged.Agrees .conditions ({ settings with logger }.paged query selection page size)) ∧
    (∀ event ∈ conditions, event.channel = .conditions) ∧
    (∀ logger, settings.logger = some logger →
      (∀ sql, statement.result = .ok sql → statement.events = conditions ++
        [.built logger.level (if selection.count then .count else .select) query.table
          (logger.shorten sql)]) ∧
      ∀ pair, paged.result = .ok pair → paged.events =
        conditions ++ [.built logger.level .select query.table (logger.shorten pair.rows)] ++
        (conditions ++ [.built logger.level .count query.table (logger.shorten pair.count)])) ∧
    (∀ error, statement.result = .error error → statement.heard .statements = []) ∧
    (∀ error, paged.result = .error error → paged.heard .statements = []) ∧
    (settings.logger = none →
      statement.heard .statements = [] ∧ paged.heard .statements = []) := by
  intro statement paged conditions
  have hc : ∀ event ∈ conditions, event.channel = .conditions :=
    settings.staysOn_conditionOf query.conditions
  refine ⟨fun logger => ⟨agrees_statement settings query selection logger,
    agrees_paged settings query selection logger page size⟩, hc, fun logger hl => ⟨?_, ?_⟩,
    fun error h => heard_of_staysOn (staysOn_statement h) nofun,
    fun error h => heard_of_staysOn (staysOn_paged h) nofun,
    fun hl => ⟨heard_of_staysOn (staysOn_statement_of_none hl) nofun,
      heard_of_staysOn (staysOn_paged_of_none hl) nofun⟩⟩
  · intro sql h
    rw [events_statement h, events_report hl]
    rfl
  · intro pair h
    rw [events_paged h, events_report hl, events_report hl]

-- The text is cut after five characters, and the operator is passed over once for each statement.
example : (Settings.paged { logger := some { maxLength := some 5 } }
    { table := "t", conditions := some (.object [("a", .object [("$near", .null)])]) } {}
    (.integer 1) (.integer 5)).events =
    [.skippedOperator "a" "$near", .built .debug .select "t" "SELEC...",
      .skippedOperator "a" "$near", .built .debug .count "t" "SELEC..."] := by
  decide +kernel

end Settings
end JsonSelect
