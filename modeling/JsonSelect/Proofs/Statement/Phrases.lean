import JsonSelect.Proofs.Statement.Admission
import JsonSelect.Proofs.Statement.Paged
import JsonSelect.Proofs.Text.Blank
import JsonSelect.Proofs.Where.Meaning

/-! A statement as a list of phrases, each a keyword and a body, and the bodies that are blank. A
phrase is left out when its body is empty, and a blank body is not empty. -/
namespace JsonSelect

/-- A keyword with its body. -/
structure Phrase where
  keyword : String
  body : String
deriving DecidableEq

namespace Phrase

/-- Nothing when there is no body. -/
def ofBody (keyword body : String) : List Phrase := if body = "" then [] else [⟨keyword, body⟩]

def isBare (phrase : Phrase) : Bool := phrase.body.toList.all Text.isBlank

/-- A space follows the keyword and the body. -/
def text (phrase : Phrase) : List Char :=
  phrase.keyword.toList ++ ' ' :: (phrase.body.toList ++ [' '])

def spelled (phrases : List Phrase) : List Char := phrases.flatMap text

variable {keyword body : String} {phrase : Phrase} {phrases more : List Phrase}

@[simp] theorem spelled_nil : spelled [] = [] := rfl

@[simp] theorem spelled_cons : spelled (phrase :: phrases) = phrase.text ++ spelled phrases := rfl

@[simp] theorem spelled_append : spelled (phrases ++ more) = spelled phrases ++ spelled more :=
  List.flatMap_append

theorem mem_ofBody : phrase ∈ ofBody keyword body ↔ phrase = ⟨keyword, body⟩ ∧ body ≠ "" := by
  unfold ofBody
  split
  next h => simp [h]
  next h => simp [h]

theorem spelled_ofBody : spelled (ofBody keyword body) = (Statement.part keyword body).toList := by
  unfold ofBody Statement.part
  split
  · rfl
  · simp [text]

theorem isBare_eq_false {c : Char} (h : c ∈ body.toList) (hc : Text.isBlank c = false) :
    isBare ⟨keyword, body⟩ = false := by
  rw [isBare, List.all_eq_false]
  exact ⟨c, h, by simp [hc]⟩

/-- What is left of the last phrase is its keyword alone exactly when its body is blank. -/
theorem trimEnd_spelled_iff (hk : Text.trimEnd phrase.keyword.toList = phrase.keyword.toList)
    (hne : phrase.keyword ≠ "") :
    Text.trimEnd (spelled (phrases ++ [phrase])) = spelled phrases ++ phrase.keyword.toList ↔
      phrase.isBare = true := by
  have hs : spelled (phrases ++ [phrase]) = (spelled phrases ++ phrase.keyword.toList) ++
      ' ' :: (phrase.body.toList ++ [' ']) := by
    simp [text]
  have hb : Text.trimEnd (' ' :: (phrase.body.toList ++ [' '])) = [] ↔ phrase.isBare = true := by
    have hblank : Text.isBlank ' ' = true := by decide
    rw [Text.trimEnd_eq_nil_iff, isBare]
    simp [hblank]
  have hl : Text.trimEnd (spelled phrases ++ phrase.keyword.toList) =
      spelled phrases ++ phrase.keyword.toList := by
    rw [Text.trimEnd_append, hk, if_neg (by simpa using hne)]
  rw [hs, Text.trimEnd_append, ← hb]
  split
  next h => simp [h, hl]
  next h => simp [h]

end Phrase

/-- What is selected, with the word that drops repeated rows as a part of the keyword. -/
def Projection.phrase : Projection → Phrase
  | all => ⟨"SELECT", "*"⟩
  | fields columns => ⟨"SELECT", ",".intercalate columns⟩
  | count => ⟨"SELECT", "COUNT(0)"⟩
  | distinct columns => ⟨"SELECT DISTINCT", ",".intercalate columns⟩

namespace Statement

def limitPhrases : Option Limit → List Phrase
  | none => []
  | some limit => [⟨"LIMIT", toString limit.skip ++ ", " ++ toString limit.size⟩]

/-- The phrases after the first one. -/
def laterPhrases (statement : Statement) : List Phrase :=
  ⟨"FROM", statement.table.text⟩ :: (Phrase.ofBody "WHERE" (Clause.optionText statement.condition) ++
    Phrase.ofBody "GROUP BY" statement.groupBy ++ Phrase.ofBody "ORDER BY" statement.orderBy ++
    limitPhrases statement.limit)

def phrases (statement : Statement) : List Phrase :=
  statement.projection.phrase :: statement.laterPhrases

variable {statement : Statement} {phrase : Phrase} {body : String}

theorem spelled_projection (projection : Projection) : projection.phrase.text =
    "SELECT ".toList ++ projection.text.toList ++ [' '] := by
  cases projection <;> simp [Projection.phrase, Projection.text, countColumn, Phrase.text]

/-- A statement is spelled by its phrases, up to the blanks at the end. -/
theorem text_eq_spelled (statement : Statement) :
    statement.text = String.ofList (Text.trimEnd (Phrase.spelled statement.phrases)) := by
  have hs : Text.trimEnd (Phrase.spelled statement.phrases) =
      Text.trimEnd statement.parts.toList := by
    have hp : Phrase.spelled statement.phrases = statement.parts.toList ++
        if statement.limit = none then [] else [' '] := by
      rw [phrases, Phrase.spelled_cons, spelled_projection]
      delta parts
      cases hl : statement.limit <;>
        simp [laterPhrases, limitPhrases, limitPart, Limit.text, Limit.sizeText,
          Phrase.spelled_ofBody, Phrase.text, hl]
    rw [hp]
    split
    · rw [List.append_nil]
    · exact Text.trimEnd_append_of_isBlank (by decide)
  rw [text, hs]

theorem mem_laterPhrases : phrase ∈ statement.laterPhrases ↔
    phrase = ⟨"FROM", statement.table.text⟩ ∨
    (phrase = ⟨"WHERE", Clause.optionText statement.condition⟩ ∧
      Clause.optionText statement.condition ≠ "") ∨
    (phrase = ⟨"GROUP BY", statement.groupBy⟩ ∧ statement.groupBy ≠ "") ∨
    (phrase = ⟨"ORDER BY", statement.orderBy⟩ ∧ statement.orderBy ≠ "") ∨
    ∃ limit ∈ statement.limit,
      phrase = ⟨"LIMIT", toString limit.skip ++ ", " ++ toString limit.size⟩ := by
  cases hl : statement.limit <;>
    simp [laterPhrases, limitPhrases, Phrase.mem_ofBody, hl]

theorem keyword_phrase (projection : Projection) :
    projection.phrase.keyword = "SELECT" ∨ projection.phrase.keyword = "SELECT DISTINCT" := by
  cases projection <;> simp [Projection.phrase]

theorem mem_phrases {keyword : String} (h : keyword ≠ "SELECT" ∧ keyword ≠ "SELECT DISTINCT") :
    ⟨keyword, body⟩ ∈ statement.phrases ↔ ⟨keyword, body⟩ ∈ statement.laterPhrases := by
  rw [phrases, List.mem_cons]
  refine or_iff_right fun he => ?_
  have hk : keyword = statement.projection.phrase.keyword := congrArg Phrase.keyword he
  rcases keyword_phrase statement.projection with hp | hp
  · exact h.1 (hk.trans hp)
  · exact h.2 (hk.trans hp)

theorem mem_where : ⟨"WHERE", body⟩ ∈ statement.phrases ↔
    body = Clause.optionText statement.condition ∧ Clause.optionText statement.condition ≠ "" := by
  rw [mem_phrases (by decide), mem_laterPhrases]
  simp

theorem mem_groupBy : ⟨"GROUP BY", body⟩ ∈ statement.phrases ↔
    body = statement.groupBy ∧ statement.groupBy ≠ "" := by
  rw [mem_phrases (by decide), mem_laterPhrases]
  simp

theorem mem_orderBy : ⟨"ORDER BY", body⟩ ∈ statement.phrases ↔
    body = statement.orderBy ∧ statement.orderBy ≠ "" := by
  rw [mem_phrases (by decide), mem_laterPhrases]
  simp

end Statement

namespace Phrase

variable {selection : Selection} {projection : Projection}

/-- Two items have a comma between them. -/
theorem isBare_list {keyword column : String} {more : List String} :
    isBare ⟨keyword, ",".intercalate (column :: more)⟩ = true ↔
      more = [] ∧ column.toList.all Text.isBlank = true := by
  cases more with
  | nil => simp [isBare]
  | cons next more =>
    have hc : ',' ∈ (",".intercalate (column :: next :: more)).toList := by simp
    have hb : isBare ⟨keyword, ",".intercalate (column :: next :: more)⟩ = false :=
      isBare_eq_false hc (by decide)
    simp only [hb, reduceCtorEq, false_and]

theorem isBare_projection (h : selection.projection = .ok projection) :
    projection.phrase.isBare = true ↔ ∃ column,
      (selection.fields = some [column] ∨ selection.distincts = some [column]) ∧
        column.toList.all Text.isBlank = true := by
  have hn : ∀ {columns : Option (List String)}, Selection.isSet columns = false →
      ∀ column, columns ≠ some [column] := fun h column =>
    Selection.isSet_eq_false_iff.mp h column []
  rcases Selection.projection_cases h with ⟨rfl, -, hf, hd⟩ | ⟨column, more, rfl, -, hf, hd⟩ |
    ⟨column, more, rfl, -, hf, hd⟩ | ⟨rfl, -, hf, hd⟩
  · have hb : (Projection.phrase .count).isBare = false := by decide
    simp [hb, hn hf, hn hd]
  · have hb : (Projection.phrase (.fields (column :: more))).isBare = true ↔ _ := isBare_list
    simp [hb, hf, hn hd]
  · have hb : (Projection.phrase (.distinct (column :: more))).isBare = true ↔ _ := isBare_list
    simp [hb, hd, hn hf]
  · have hb : (Projection.phrase .all).isBare = false := by decide
    simp [hb, hn hf, hn hd]

end Phrase

theorem Identifier.backquote_mem_text {column : Identifier} (h : column.parts ≠ []) :
    '`' ∈ column.text.toList := by
  obtain ⟨parts⟩ := column
  cases parts with
  | nil => exact absurd rfl h
  | cons part parts => cases parts <;> simp [text]

theorem Identifier.parts_ne_nil {policy : NamePolicy} {name : String} {column : Identifier}
    (h : ofName policy name = .ok column) : column.parts ≠ [] := by
  rw [eq_column h]
  cases policy <;> simp [NamePolicy.column, segments_ne_nil]

namespace Settings

variable {settings : Settings} {query : Query} {selection : Selection} {statement : Statement}
  {phrase : Phrase} {conditions : Option Json} {part : Option Clause}

theorem conditionOf_eq_ok (h : (settings.conditionOf conditions).result = .ok part) :
    (∃ fields filter, conditions = some (.object fields) ∧
      (Filter.read settings.unknownOperators fields).result = .ok filter ∧
      (filter.clause settings.names .and).result = .ok part) ∨
    (conditions = none ∨ conditions = some .null) ∧ part = none := by
  unfold conditionOf at h
  split at h
  next => cases h; exact .inr ⟨.inl rfl, rfl⟩
  next => cases h; exact .inr ⟨.inr rfl, rfl⟩
  next fields =>
    simp only [condition, Outcome.result_bind, Error.bind_eq_ok] at h
    obtain ⟨filter, hr, hc⟩ := h
    exact .inl ⟨fields, filter, rfl, hr, hc⟩
  next => cases h

/-- The condition of a statement stands in parentheses. -/
theorem exists_parens {clause : Clause} (h : (settings.conditionOf conditions).result = .ok clause) :
    ∃ inner, clause = .parens inner := by
  rcases conditionOf_eq_ok h with ⟨_, filter, _, _, hc⟩ | ⟨_, hn⟩
  · simp only [Filter.clause, Outcome.result_map, Error.map_eq_ok, Clause.enclosed_eq_some] at hc
    obtain ⟨_, _, _, rfl⟩ := hc
    exact ⟨_, rfl⟩
  · cases hn

/-- Names, conditions and limits are never blank, and groupings and orders are taken as they are. -/
theorem keyword_of_isBare (h : settings.Assembles query selection statement)
    (hp : phrase ∈ statement.laterPhrases) (hb : phrase.isBare = true) :
    phrase.keyword = "GROUP BY" ∨ phrase.keyword = "ORDER BY" := by
  rcases Statement.mem_laterPhrases.mp hp with rfl | ⟨rfl, hne⟩ | ⟨rfl, -⟩ | ⟨rfl, -⟩ |
    ⟨limit, -, rfl⟩
  · have hm := Identifier.backquote_mem_text (Identifier.parts_ne_nil h.table)
    rw [Phrase.isBare_eq_false hm (by decide)] at hb
    cases hb
  · cases hc : statement.condition with
    | none => exact absurd (by rw [hc]; rfl) hne
    | some clause =>
      obtain ⟨inner, rfl⟩ := exists_parens (hc ▸ h.condition)
      have hm : '(' ∈ (Clause.optionText statement.condition).toList := by
        simp [hc, Clause.optionText, Clause.text]
      rw [Phrase.isBare_eq_false hm (by decide)] at hb
      cases hb
  · exact .inl rfl
  · exact .inr rfl
  · have hm : ',' ∈ (toString limit.skip ++ ", " ++ toString limit.size).toList := by simp
    rw [Phrase.isBare_eq_false hm (by decide)] at hb
    cases hb

end Settings

namespace Statement

variable {statement : Statement} {phrase : Phrase} {before : List Phrase}

def keywords : List String :=
  ["SELECT", "SELECT DISTINCT", "FROM", "WHERE", "GROUP BY", "ORDER BY", "LIMIT"]

theorem keyword_mem_keywords (h : phrase ∈ statement.phrases) : phrase.keyword ∈ keywords := by
  rcases List.mem_cons.mp h with rfl | h
  · rcases keyword_phrase statement.projection with hk | hk <;> simp [hk, keywords]
  · rcases mem_laterPhrases.mp h with rfl | ⟨rfl, -⟩ | ⟨rfl, -⟩ | ⟨rfl, -⟩ | ⟨limit, -, rfl⟩ <;>
      simp [keywords]

theorem text_eq_iff_isBare (h : statement.phrases = before ++ [phrase]) :
    statement.text.toList = Phrase.spelled before ++ phrase.keyword.toList ↔
      phrase.isBare = true := by
  have hk : ∀ keyword ∈ keywords, Text.trimEnd keyword.toList = keyword.toList ∧ keyword ≠ "" := by
    decide
  have hm : phrase ∈ statement.phrases := by simp [h]
  obtain ⟨ht, hne⟩ := hk _ (keyword_mem_keywords hm)
  rw [text_eq_spelled, String.toList_ofList, h, Phrase.trimEnd_spelled_iff ht hne]

end Statement

namespace Settings

/-- A statement is spelled by its phrases. Only the selected columns, the grouping and the order can
be blank: the columns as one blank name, and the others since they are written wherever they are not
empty. The statement ends with a bare keyword exactly when its last phrase is blank. -/
theorem statement_phrases (settings : Settings) (query : Query) (selection : Selection) :
    (∀ sql, (settings.statement query selection).result = .ok sql →
      ∃ statement, settings.Assembles query selection statement ∧
        sql = String.ofList (Text.trimEnd (Phrase.spelled statement.phrases)) ∧
        (statement.projection.phrase.isBare = true ↔ ∃ column,
          (selection.fields = some [column] ∨ selection.distincts = some [column]) ∧
            column.toList.all Text.isBlank = true) ∧
        (∀ body, ⟨"GROUP BY", body⟩ ∈ statement.phrases ↔
          body = Terms.optionText query.groupBy ∧ Terms.optionText query.groupBy ≠ "") ∧
        (∀ body, ⟨"ORDER BY", body⟩ ∈ statement.phrases ↔
          selection.count = false ∧ body = Terms.optionText query.orderBy ∧
            Terms.optionText query.orderBy ≠ "") ∧
        (∀ phrase ∈ statement.laterPhrases, phrase.isBare = true →
          phrase.keyword = "GROUP BY" ∨ phrase.keyword = "ORDER BY") ∧
        ∀ before last, statement.phrases = before ++ [last] →
          (sql.toList = Phrase.spelled before ++ last.keyword.toList ↔ last.isBare = true)) ∧
    (Terms.optionText query.groupBy = "" →
      settings.statement { query with groupBy := none } selection =
        settings.statement query selection) ∧
    (Terms.optionText query.orderBy = "" →
      settings.statement { query with orderBy := none } selection =
        settings.statement query selection) := by
  refine ⟨fun sql h => ?_, fun hg => ?_, fun ho => ?_⟩
  · obtain ⟨statement, ha, rfl⟩ := statement_eq_ok_iff.mp h
    refine ⟨statement, ha, statement.text_eq_spelled, Phrase.isBare_projection ha.projection,
      fun body => ?_, fun body => ?_, fun phrase => keyword_of_isBare ha,
      fun before last => Statement.text_eq_iff_isBare⟩
    · rw [Statement.mem_groupBy, ha.groupBy]
    · rw [Statement.mem_orderBy]
      cases hs : selection.count with
      | true => simp [(ha.counted hs).1]
      | false => simp [(ha.ordered hs).1]
  · have hn : Terms.optionText none = "" := rfl
    simp only [Settings.statement, assemble_eq, hg, hn]
  · have hn : Terms.optionText none = "" := rfl
    simp only [Settings.statement, assemble_eq, ho, hn]

/-- A blank grouping stands before the order, and a blank order at the end. -/
theorem statement_phrases_blank :
    let query : Query := { table := "t", groupBy := some (.raw "\t"), orderBy := some (.raw " ") }
    let sql := "SELECT * FROM `t` GROUP BY \t ORDER BY"
    let before : List Phrase := [⟨"SELECT", "*"⟩, ⟨"FROM", "`t`"⟩, ⟨"GROUP BY", "\t"⟩]
    let last : Phrase := ⟨"ORDER BY", " "⟩
    (Settings.statement {} query {}).result = .ok sql ∧
    ∃ statement, Settings.Assembles {} query {} statement ∧
      statement.phrases = before ++ [last] ∧
      (sql.toList = Phrase.spelled before ++ last.keyword.toList ↔ last.isBare = true) := by
  intro query sql before last
  have h : (Settings.assemble {} query {}).result = .ok {
      projection := .all, table := ⟨["t"]⟩, groupBy := "\t", orderBy := " " } := rfl
  have hs : (Settings.statement {} query {}).result = .ok sql :=
    statement_eq_ok_iff.mpr ⟨_, assembles_of_assemble h, by decide +kernel⟩
  obtain ⟨statement, ha, -, -, -, -, -, hend⟩ := (statement_phrases {} query {}).1 sql hs
  obtain rfl := Except.ok.inj ((assemble_of_assembles ha).symm.trans h)
  exact ⟨hs, _, ha, rfl, hend before last rfl⟩

/-- An order of blanks alone is written, and its keyword stands alone at the end. -/
theorem statement_of_blank_order :
    let query : Query := { table := "t", orderBy := some (.raw " ") }
    (Terms.optionText query.orderBy).toList.all Text.isBlank = true ∧
    (Settings.statement {} query {}).result = .ok "SELECT * FROM `t` ORDER BY" ∧
    (Settings.statement {} { query with orderBy := none } {}).result = .ok "SELECT * FROM `t`" :=
  ⟨by decide, rfl, rfl⟩

end Settings
end JsonSelect
