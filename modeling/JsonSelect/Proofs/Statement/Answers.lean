import JsonSelect.Proofs.Statement.Phrases
import Mathlib.Data.List.Dedup

/-! What a database answers to the statements of a page: the number of all rows against the rows
without their limit. -/
namespace JsonSelect

variable {Record Value : Type}

inductive Row (Record Value : Type) where
  | record (record : Record)
  | values (values : Value)
  | total (number : Nat)
deriving DecidableEq

/-- The records of each table, and how conditions, lists of columns and orders are understood. What
a condition leaves unknown is not satisfied. -/
structure Database (Record Value : Type) where
  records : Identifier → List Record
  satisfies : Clause → Record → Bool
  values : List String → Record → Value
  arrange : String → List Record → List Record
  perm_arrange : ∀ order records, (arrange order records).Perm records

namespace Database

variable (db : Database Record Value)

/-- The records that satisfy the condition. Without one, all of them are kept. -/
def kept (statement : Statement) : List Record :=
  (db.records statement.table).filter fun record =>
    statement.condition.all fun clause => db.satisfies clause record

/-- No two of the records have the same values in the columns. -/
def Distinguishes (columns : List String) (records : List Record) : Prop :=
  records.Pairwise fun a b => db.values columns a ≠ db.values columns b

variable {db} {records : List Record} {projection : Projection} {statement : Statement}

theorem distinguishes_iff_nodup {columns : List String} :
    db.Distinguishes columns records ↔ (records.map (db.values columns)).Nodup :=
  List.pairwise_map.symm

theorem distinguishes_arrange {order : String} {columns : List String} :
    db.Distinguishes columns (db.arrange order records) ↔ db.Distinguishes columns records :=
  (db.perm_arrange order records).pairwise_iff Ne.symm

theorem length_arrange (order : String) (records : List Record) :
    (db.arrange order records).length = records.length :=
  (db.perm_arrange order records).length_eq

variable [DecidableEq Value]

variable (db) in
/-- A count is one row. Of the rows that have to be distinct, those equal to another are left out. -/
def rows (projection : Projection) (records : List Record) : List (Row Record Value) :=
  match projection with
  | .all => records.map .record
  | .fields columns => records.map fun record => .values (db.values columns record)
  | .count => [.total records.length]
  | .distinct columns => (records.map (db.values columns)).dedup.map .values

/-- As many rows as records, or fewer where some of them are equal. -/
theorem length_rows_le (hp : projection ≠ .count) :
    (db.rows projection records).length ≤ records.length := by
  cases projection with
  | all | fields columns => simp [rows]
  | count => exact absurd rfl hp
  | distinct columns =>
    have h := (List.dedup_sublist (records.map (db.values columns))).length_le
    simpa [rows] using h

theorem length_rows_eq_iff (hp : projection ≠ .count) :
    (db.rows projection records).length = records.length ↔
      ∀ columns, projection = .distinct columns → db.Distinguishes columns records := by
  cases projection with
  | all | fields columns => simp [rows]
  | count => exact absurd rfl hp
  | distinct columns =>
    have hd : (records.map (db.values columns)).dedup.length =
        (records.map (db.values columns)).length ↔ (records.map (db.values columns)).Nodup :=
      ⟨fun h => List.dedup_eq_self.mp ((List.dedup_sublist _).eq_of_length h),
        fun h => by rw [List.dedup_eq_self.mpr h]⟩
    simpa [rows, distinguishes_iff_nodup] using hd

variable (db) in
/-- The rows of a statement before its limit. -/
def allRows (statement : Statement) : List (Row Record Value) :=
  db.rows statement.projection (db.arrange statement.orderBy (db.kept statement))

variable (db) in
/-- The rows that a statement returns. Statements that group have none here. -/
def answer (statement : Statement) : Option (List (Row Record Value)) :=
  if statement.groupBy = "" then
    match statement.limit with
    | none => some (db.allRows statement)
    | some limit => some (((db.allRows statement).drop limit.skip.toNat).take limit.size.toNat)
  else none

theorem answer_of_no_limit (hg : statement.groupBy = "") (hl : statement.limit = none) :
    db.answer statement = some (db.allRows statement) := by
  rw [answer, if_pos hg, hl]

theorem answer_of_count (hp : statement.projection = .count) (hg : statement.groupBy = "")
    (hl : statement.limit = none) :
    db.answer statement = some [.total (db.kept statement).length] := by
  rw [answer_of_no_limit hg hl, allRows, hp, rows, length_arrange]

theorem length_allRows_le (hp : statement.projection ≠ .count) :
    (db.allRows statement).length ≤ (db.kept statement).length :=
  (length_rows_le hp).trans_eq (length_arrange _ _)

/-- The order has no say in the number of rows. -/
theorem length_allRows_eq_iff (hp : statement.projection ≠ .count) :
    (db.allRows statement).length = (db.kept statement).length ↔
      ∀ columns, statement.projection = .distinct columns →
        db.Distinguishes columns (db.kept statement) := by
  rw [allRows, ← length_arrange statement.orderBy (db.kept statement), length_rows_eq_iff hp]
  simp only [distinguishes_arrange]

/-- A table of two columns, `id` and another one. All of its records are kept. -/
def ofPairs (records : List (Nat × Nat)) : Database (Nat × Nat) (List Nat) where
  records _ := records
  satisfies _ _ := true
  values columns record := columns.map fun column => if column = "id" then record.1 else record.2
  arrange _ records := records
  perm_arrange _ records := .refl records

theorem kept_ofPairs (records : List (Nat × Nat)) (statement : Statement) :
    (ofPairs records).kept statement = records := by
  have h : statement.condition.all (fun _ => true) = true := by cases statement.condition <;> rfl
  simp [kept, ofPairs, h]

end Database

namespace Selection

variable {selection : Selection} {projection : Projection}

/-- Distinct rows are selected exactly for a list of columns to tell apart. -/
theorem projection_eq_distinct_iff (h : selection.projection = .ok projection)
    (hs : selection.count = false) {columns : List String} :
    projection = .distinct columns ↔ selection.distincts = some columns ∧ columns ≠ [] := by
  have hn : isSet selection.distincts = false →
      ¬ (selection.distincts = some columns ∧ columns ≠ []) := by
    rintro hd ⟨he, hne⟩
    obtain ⟨column, more, rfl⟩ := List.exists_cons_of_ne_nil hne
    exact isSet_eq_false_iff.mp hd column more he
  rcases projection_cases h with ⟨-, hc, -⟩ | ⟨column, more, rfl, -, -, hd⟩ |
    ⟨column, more, rfl, -, -, hd⟩ | ⟨rfl, -, -, hd⟩
  · exact absurd hc (by simp [hs])
  · exact iff_of_false nofun (hn hd)
  · constructor
    · intro he
      cases he
      exact ⟨hd, List.cons_ne_nil _ _⟩
    · rintro ⟨he, -⟩
      rw [Option.some.inj (hd.symm.trans he)]
  · exact iff_of_false nofun (hn hd)

end Selection

namespace Settings

variable {settings : Settings} {query : Query} {selection : Selection} {page size : PageInput}
  {paged : Paged}

/-- The statements whose phrases the texts of a page spell. -/
structure PageOf (settings : Settings) (query : Query) (selection : Selection) (paged : Paged)
    (rows count : Statement) : Prop where
  rows_built : (settings.assemble { query with limit := some paged.limit.toJson } selection).result =
    .ok rows
  rows_spelled : paged.rows = String.ofList (Text.trimEnd (Phrase.spelled rows.phrases))
  count_built : (settings.assemble query { count := true }).result = .ok count
  count_spelled : paged.count = String.ofList (Text.trimEnd (Phrase.spelled count.phrases))

theorem exists_pageOf (h : (settings.paged query selection page size).result = .ok paged) :
    ∃ statement : Statement, selection.projection = .ok statement.projection ∧
      selection.count = false ∧ statement.groupBy = Terms.optionText query.groupBy ∧
      settings.PageOf query selection paged { statement with limit := some paged.limit }
        { statement with projection := .count, orderBy := "", limit := none } := by
  obtain ⟨hs, hl, statement, ha, hr, hc⟩ := exists_of_paged h
  refine ⟨statement, ha.projection, hs, ha.groupBy, ?_, hr.trans (Statement.text_eq_spelled _), ?_,
    hc.trans (Statement.text_eq_spelled _)⟩
  · exact assemble_of_assembles (ha.setLimit hs (Limit.ofOption_toJson (Limit.inRange_of_ofPage hl)))
  · rw [← assemble_of_count settings query query.orderBy none rfl]
    exact assemble_of_assembles ha.counting

variable [DecidableEq Value]

/-- The number that a page counts is that of the kept records. There are as many rows without the
limit when the columns to tell apart, if there are any, tell all of them apart, and else fewer. -/
theorem paged_total_eq_iff (db : Database Record Value) (hg : Terms.optionText query.groupBy = "")
    (h : (settings.paged query selection page size).result = .ok paged) :
    ∃ rows count all total, settings.PageOf query selection paged rows count ∧
      rows.limit = some paged.limit ∧
      db.answer { rows with limit := none } = some all ∧
      db.answer count = some [.total total] ∧
      total = (db.kept rows).length ∧
      all.length ≤ total ∧
      (all.length = total ↔ ∀ columns, selection.distincts = some columns → columns ≠ [] →
        db.Distinguishes columns (db.kept rows)) := by
  obtain ⟨statement, hp, hs, hgroup, hpage⟩ := exists_pageOf h
  rw [hg] at hgroup
  have hne := Selection.projection_ne_count hp hs
  refine ⟨_, _, _, _, hpage, rfl, Database.answer_of_no_limit hgroup rfl,
    Database.answer_of_count rfl hgroup rfl, rfl, Database.length_allRows_le hne,
    (Database.length_allRows_eq_iff hne).trans (forall_congr' fun columns => ?_)⟩
  rw [← and_imp]
  exact imp_congr_left (Selection.projection_eq_distinct_iff hp hs)

/-- Two records with different values of `id` are two rows, and both are counted. -/
theorem paged_total_eq_iff_ids : ∃ rows count all,
    PageOf {} { table := "t" } { distincts := some ["id"] } {
      rows := "SELECT DISTINCT id FROM `t` LIMIT 0, 10", count := "SELECT COUNT(0) FROM `t`"
      limit := ⟨0, 10⟩ } rows count ∧
    (Database.ofPairs [(1, 5), (2, 5)]).answer { rows with limit := none } = some all ∧
    (Database.ofPairs [(1, 5), (2, 5)]).answer count = some [.total 2] ∧ all.length = 2 := by
  have h : (Settings.paged {} { table := "t" } { distincts := some ["id"] } (.integer 1)
      (.integer 10)).result = .ok {
        rows := "SELECT DISTINCT id FROM `t` LIMIT 0, 10", count := "SELECT COUNT(0) FROM `t`"
        limit := ⟨0, 10⟩ } := rfl
  obtain ⟨rows, count, all, total, hp, -, ha, hc, ht, -, hiff⟩ :=
    paged_total_eq_iff (Database.ofPairs [(1, 5), (2, 5)]) (by rfl) h
  rw [Database.kept_ofPairs] at ht hiff
  subst ht
  refine ⟨rows, count, all, hp, ha, hc, hiff.mpr ?_⟩
  rintro columns hcolumns -
  cases hcolumns
  rw [Database.distinguishes_iff_nodup]
  decide

/-- Two records with the same value of another column are one row, and still both are counted. -/
theorem paged_total_ne_of_repeated : ∃ rows count,
    (Settings.paged {} { table := "t" } { distincts := some ["a"] } (.integer 1)
      (.integer 10)).result = .ok {
        rows := "SELECT DISTINCT a FROM `t` LIMIT 0, 10", count := "SELECT COUNT(0) FROM `t`"
        limit := ⟨0, 10⟩ } ∧
    PageOf {} { table := "t" } { distincts := some ["a"] } {
      rows := "SELECT DISTINCT a FROM `t` LIMIT 0, 10", count := "SELECT COUNT(0) FROM `t`"
      limit := ⟨0, 10⟩ } rows count ∧
    (Database.ofPairs [(1, 5), (2, 5)]).answer { rows with limit := none } = some [.values [5]] ∧
    (Database.ofPairs [(1, 5), (2, 5)]).answer count = some [.total 2] := by
  refine ⟨{ projection := .distinct ["a"], table := ⟨["t"]⟩, limit := some ⟨0, 10⟩ },
    { projection := .count, table := ⟨["t"]⟩ }, rfl, ⟨rfl, ?_, rfl, ?_⟩, ?_, ?_⟩
  · decide +kernel
  · decide +kernel
  · decide
  · decide

end Settings
end JsonSelect
