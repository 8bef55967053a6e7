import JsonSelect.Proofs.Sql.Balance
import JsonSelect.Proofs.Where.Tokens

/-! The grammar of conditions, and what it excludes: empty parentheses and dangling connectives. -/
namespace JsonSelect

open Sql

/-- Names in backquotes, with points between them. -/
inductive IsColumn : String → Prop where
  | name {name : String} (h : '`' ∉ name.toList) : IsColumn ("`" ++ name ++ "`")
  | dotted {name column : String} (h : '`' ∉ name.toList) (hc : IsColumn column) :
    IsColumn ("`" ++ name ++ "`." ++ column)

/-- What can stand between the quotes of a string: no backslash without the character it guards,
and no quote that is not guarded or doubled. -/
inductive IsStringBody : List Char → Prop where
  | nil : IsStringBody []
  | plain {c : Char} {rest : List Char} (hc : c ≠ '"' ∧ c ≠ '\\') (h : IsStringBody rest) :
    IsStringBody (c :: rest)
  | guarded {c : Char} {rest : List Char} (h : IsStringBody rest) : IsStringBody ('\\' :: c :: rest)
  | doubled {rest : List Char} (h : IsStringBody rest) : IsStringBody ('"' :: '"' :: rest)

inductive IsLiteral : String → Prop where
  | null : IsLiteral "NULL"
  | yes : IsLiteral "true"
  | no : IsLiteral "false"
  | number {text : String} (h : IsNumeral text.toList) : IsLiteral text
  | string {body : List Char} (h : IsStringBody body) :
    IsLiteral (String.ofList ('"' :: body ++ ['"']))
  | bytes {digits : List Char} (h : ∀ c ∈ digits, isHexDigit c = true) :
    IsLiteral (String.ofList ('X' :: '"' :: digits ++ ['"']))

inductive IsAtom : String → Prop where
  | compare {column value : String} (hc : IsColumn column) (comparison : Comparison)
    (hv : IsLiteral value) : IsAtom (column ++ " " ++ comparison.symbol ++ " " ++ value)
  | isNull {column : String} (hc : IsColumn column) : IsAtom (column ++ " IS NULL")
  | isNotNull {column : String} (hc : IsColumn column) : IsAtom (column ++ " IS NOT NULL")
  | like {column value : String} (hc : IsColumn column) (hv : IsLiteral value) :
    IsAtom (column ++ " LIKE " ++ value)
  | isIn {column : String} {values : List String} (hc : IsColumn column) (hne : values ≠ [])
    (hv : ∀ value ∈ values, IsLiteral value) :
    IsAtom (column ++ " IN (" ++ ", ".intercalate values ++ ")")
  | isNotIn {column : String} {values : List String} (hc : IsColumn column) (hne : values ≠ [])
    (hv : ∀ value ∈ values, IsLiteral value) :
    IsAtom (column ++ " NOT IN (" ++ ", ".intercalate values ++ ")")
  | never : IsAtom "1=0"
  | always : IsAtom "1=1"

mutual

/-- Items in parentheses. -/
inductive IsCondition : String → Prop where
  | parens {items : String} (h : IsItems items) : IsCondition ("(" ++ items ++ ")")

/-- One item or more, with a connective between any two. -/
inductive IsItems : String → Prop where
  | one {item : String} (h : IsItem item) : IsItems item
  | more {item items : String} (h : IsItem item) (connective : Connective) (hm : IsItems items) :
    IsItems (item ++ " " ++ connective.keyword ++ " " ++ items)

inductive IsItem : String → Prop where
  | condition {text : String} (h : IsCondition text) : IsItem text
  | atom {text : String} (h : IsAtom text) : IsItem text

end

theorem IsItems.join (connective : Connective) {others : String} (ho : IsItems others) :
    ∀ {items : String}, IsItems items →
      IsItems (items ++ " " ++ connective.keyword ++ " " ++ others)
  | _, .one h => .more h connective ho
  | _, .more h inner hm => by
    have hi := IsItems.more h inner (IsItems.join connective ho hm)
    simpa only [String.append_assoc] using hi

theorem IsItems.intercalate (connective : Connective) {texts : List String} (hne : texts ≠ [])
    (h : ∀ text ∈ texts, IsItems text) :
    IsItems ((" " ++ connective.keyword ++ " ").intercalate texts) := by
  induction texts with
  | nil => exact absurd rfl hne
  | cons text texts ih =>
    cases texts with
    | nil => simpa using h text
    | cons next texts =>
      have hi := IsItems.join connective (ih (by simp) fun x hx => h x (by simp [hx]))
        (h text (by simp))
      simpa [String.append_assoc] using hi

namespace Identifier

theorem isColumn_text {column : Identifier} (h : column.Proper) : IsColumn column.text := by
  obtain ⟨parts⟩ := column
  induction parts with
  | nil => exact absurd rfl h.1
  | cons part parts ih =>
    have hp : '`' ∉ part.toList := h.2 part (by simp)
    cases parts with
    | nil => simpa [text] using IsColumn.name hp
    | cons next parts =>
      rw [text_cons_cons]
      exact .dotted hp (ih ⟨by simp, fun x hx => h.2 x (List.mem_cons_of_mem _ hx)⟩)

end Identifier

theorem isStringBody_flatMap {written : Char → List Char}
    (h : ∀ c rest, IsStringBody rest → IsStringBody (written c ++ rest)) (content : List Char)
    {rest : List Char} (hr : IsStringBody rest) :
    IsStringBody (content.flatMap written ++ rest) := by
  induction content with
  | nil => exact hr
  | cons c content ih =>
    rw [List.flatMap_cons, List.append_assoc]
    exact h c _ ih

theorem isStringBody_escapedChar (c : Char) (rest : List Char) (hr : IsStringBody rest) :
    IsStringBody (Literal.escapedChar c ++ rest) := by
  unfold Literal.escapedChar
  split <;> first | exact .guarded hr | exact .plain ⟨by assumption, by assumption⟩ hr

theorem isStringBody_guarded (c : Char) (rest : List Char) (hr : IsStringBody rest) :
    IsStringBody ((Literal.escapedChar c).flatMap Pattern.guarded ++ rest) := by
  by_cases hc : c = '_' ∨ c = '%'
  · rcases hc with rfl | rfl <;> exact .guarded hr
  · have hg : (Literal.escapedChar c).flatMap Pattern.guarded = Literal.escapedChar c := by
      unfold Literal.escapedChar
      split <;> first | rfl | simp [Pattern.guarded, hc]
    rw [hg]
    exact isStringBody_escapedChar c rest hr

theorem Literal.isLiteral_quoted (value : Literal) : IsLiteral value.quoted := by
  cases value with
  | null => exact .null
  | bool value =>
    cases value with
    | true => exact .yes
    | false => exact .no
  | number value => exact .number (isNumeral_text value)
  | text value =>
    have hb := isStringBody_flatMap isStringBody_escapedChar value.toList .nil
    rw [List.append_nil] at hb
    exact .string hb
  | bytes value => exact .bytes (isHexDigit_hexPairs value)

theorem Pattern.isLiteral_text {pattern : Pattern} (h : pattern.Proper) :
    IsLiteral pattern.text := by
  cases pattern with
  | bare value =>
    have hl := value.isLiteral_quoted
    cases value with
    | bool | number => exact hl
    | null | text | bytes => cases h
  | contains inner =>
    have hp : ∀ {rest}, IsStringBody rest → IsStringBody ('%' :: rest) :=
      fun hr => .plain (by decide) hr
    have hb := isStringBody_flatMap isStringBody_guarded inner.toList (hp .nil)
    simpa [text, Literal.escapedText, List.flatMap_assoc] using IsLiteral.string (hp hb)

theorem Atom.isAtom_text {atom : Atom} (h : atom.Proper) : IsAtom atom.text := by
  cases atom with
  | isNull column => exact .isNull (Identifier.isColumn_text h)
  | isNotNull column => exact .isNotNull (Identifier.isColumn_text h)
  | compare column comparison value =>
    exact .compare (Identifier.isColumn_text h) comparison value.isLiteral_quoted
  | like column pattern => exact .like (Identifier.isColumn_text h.1) (Pattern.isLiteral_text h.2)
  | member column negated first rest =>
    have hc := Identifier.isColumn_text h
    have hv : ∀ value ∈ (first :: rest).map Literal.quoted, IsLiteral value := by
      intro value hm
      obtain ⟨literal, _, rfl⟩ := List.mem_map.mp hm
      exact literal.isLiteral_quoted
    cases negated with
    | false => exact .isIn hc (by simp) hv
    | true => exact .isNotIn hc (by simp) hv
  | never => exact .never
  | always => exact .always

theorem Clause.isItems_text {clause : Clause} (h : clause.Proper) : IsItems clause.text := by
  induction h with
  | single h => exact .one (.atom (Atom.isAtom_text h))
  | @chain connective parts hne _ ih =>
    rw [text, texts_eq_map]
    exact IsItems.intercalate connective (by simpa using hne) (by simpa using ih)
  | parens _ ih => exact .one (.condition (.parens ih))

section Operands

theorem Identifier.isPlain_tokens {column : Identifier} :
    ∀ token ∈ column.tokens, token.IsPlain := by
  obtain ⟨parts⟩ := column
  induction parts with
  | nil => simp [tokens]
  | cons part parts ih =>
    cases parts with
    | nil => simp [tokens, Token.IsPlain, Token.isConnective]
    | cons next parts =>
      intro token ht
      rw [tokens_cons_cons, List.mem_cons, List.mem_cons] at ht
      rcases ht with rfl | rfl | ht
      · simp [Token.IsPlain, Token.isConnective]
      · simp [Token.IsPlain, Token.isConnective]
      · exact ih token ht

theorem Literal.isPlain_token (value : Literal) : value.token.IsPlain := by
  rcases value with _ | (_ | _) | _ | _ | _ <;> simp [token, Token.IsPlain, Token.isConnective]

theorem Pattern.isPlain_token (pattern : Pattern) : pattern.token.IsPlain := by
  cases pattern with
  | bare value => exact value.isPlain_token
  | contains inner => simp [token, Token.IsPlain, Token.isConnective]

theorem Literal.isPlain_list (values : List Literal) :
    ∀ token ∈ (values.map Literal.token).intersperse .comma, token.IsPlain := by
  induction values with
  | nil => simp
  | cons value values ih =>
    cases values with
    | nil => simpa using value.isPlain_token
    | cons next values =>
      intro token ht
      rw [List.map_cons, List.map_cons, List.intersperse_cons_cons, List.mem_cons,
        List.mem_cons] at ht
      rcases ht with rfl | rfl | ht
      · exact value.isPlain_token
      · simp [Token.IsPlain, Token.isConnective]
      · exact ih token ht

theorem Atom.operand_tokens (atom : Atom) : Operand atom.tokens := by
  have hw : (Token.word "IS").IsPlain ∧ (Token.word "NOT").IsPlain ∧ (Token.word "NULL").IsPlain ∧
      (Token.word "LIKE").IsPlain ∧ (Token.word "IN").IsPlain := by
    simp [Token.IsPlain, Token.isConnective]
  have hp : ∀ {found more : List Token}, (∀ token ∈ found, token.IsPlain) →
      (∀ token ∈ more, token.IsPlain) → ∀ token ∈ found ++ more, token.IsPlain :=
    fun h hm => List.forall_mem_append.mpr ⟨h, hm⟩
  cases atom with
  | isNull column =>
    exact .of_plain (by simp [tokens]) (hp Identifier.isPlain_tokens (by simp [hw]))
  | isNotNull column =>
    exact .of_plain (by simp [tokens]) (hp Identifier.isPlain_tokens (by simp [hw]))
  | compare column comparison value =>
    have ho : (Token.operator comparison.symbol).IsPlain := by
      simp [Token.IsPlain, Token.isConnective]
    exact .of_plain (by simp [tokens])
      (hp Identifier.isPlain_tokens (by simp [ho, value.isPlain_token]))
  | like column pattern =>
    exact .of_plain (by simp [tokens])
      (hp Identifier.isPlain_tokens (by simp [hw, pattern.isPlain_token]))
  | member column negated first rest =>
    have hl : Operand (((first :: rest).map Literal.token).intersperse .comma) :=
      .of_plain (by cases rest <;> simp) (Literal.isPlain_list _)
    refine .append (.of_plain (by cases negated <;> simp) ?_) hl.parens
    cases negated <;> exact hp Identifier.isPlain_tokens (by simp [hw])
  | never | always =>
    exact .of_plain (by simp [tokens]) (by simp [tokens, Token.IsPlain, Token.isConnective])

theorem Clause.operand_intercalate (connective : Connective) {founds : List (List Token)}
    (hne : founds ≠ []) (h : ∀ found ∈ founds, Operand found) :
    Operand ([Token.word connective.keyword].intercalate founds) := by
  induction founds with
  | nil => exact absurd rfl hne
  | cons found founds ih =>
    cases founds with
    | nil => simpa using h found
    | cons next founds =>
      have ho := (h found (by simp)).join connective
        (ih (by simp) fun x hx => h x (by simp [hx]))
      simpa [List.intercalate] using ho

theorem Clause.operand_tokens {clause : Clause} (h : clause.Proper) : Operand clause.tokens := by
  induction h with
  | single => exact Atom.operand_tokens _
  | @chain connective parts hne _ ih =>
    rw [tokens, allTokens_eq_map]
    exact operand_intercalate connective (by simpa using hne) (by simpa using ih)
  | parens _ ih => exact ih.parens

end Operands

section Sql

variable {policy : NamePolicy} {connective : Connective} {filter : Filter} {sql : String}

/-- A condition that is not empty is one of the grammar. Among its tokens nothing but an operand
follows a connective or an opening parenthesis, and the first parenthesis is closed by the last. -/
theorem Filter.isCondition_of_sql (h : filter.sql policy connective = .ok sql) (hne : sql ≠ "")
    (hn : Unquoted (Filter.names filter)) :
    IsCondition sql ∧ ∃ found, tokens sql = some found ∧
      found.head? = some .opening ∧ found.getLast? = some .closing ∧ found.IsChain MayFollow ∧
      depth found = 0 ∧
      ∀ before, before <+: found → before ≠ [] → before ≠ found → 0 < depth before := by
  obtain ⟨clause, _, hc, rfl⟩ := Filter.clause_of_sql h hne hn
  have ho := Clause.operand_tokens hc
  refine ⟨.parens (Clause.isItems_text hc), (Clause.parens clause).tokens,
    (Clause.scans (.parens hc)).tokens_eq, rfl, ?_, ho.parens.chain, ho.parens.balanced.1,
    fun before hb hne hl => ho.balanced.depth_pos hb hne hl⟩
  rw [Clause.tokens, List.getLast?_cons_of_ne_nil (by simp), List.getLast?_concat]

theorem Filter.isCondition_of_sql_mixed :
    let filter : Filter := [.field "a" (.tests [.compare .lt .null, .like (.text "(")]),
      .nested .or [.field "b" (.equals (.text "()")), .field "c" (.tests [])], .each .or []]
    let sql := "((`a` LIKE \"%(%\") AND (`b` = \"()\"))"
    filter.sql .verbatim .and = .ok sql ∧ IsCondition sql ∧ ∃ found, tokens sql = some found ∧
      found.head? = some .opening ∧ found.getLast? = some .closing ∧ found.IsChain MayFollow ∧
      depth found = 0 ∧
      ∀ before, before <+: found → before ≠ [] → before ≠ found → 0 < depth before := by
  intro filter sql
  have h : filter.sql .verbatim .and = .ok sql := rfl
  exact ⟨h, Filter.isCondition_of_sql h (by decide) (by decide)⟩

end Sql

end JsonSelect
