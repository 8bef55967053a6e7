import JsonSelect.Proofs.Sql.Reading
import JsonSelect.Proofs.Where.Tokens

/-! What is read from the tokens of a condition. -/
namespace JsonSelect

open Sql

mutual

/-- The row of operands that a condition is read as. Only parentheses keep a row together. -/
def Clause.line : Clause → Line (List Token)
  | .single atom => .operand (.atom atom.tokens)
  | .chain connective parts => .join connective (Clause.lines parts)
  | .parens inner => .operand inner.line.expression

def Clause.lines : List Clause → List (Line (List Token))
  | [] => []
  | part :: rest => part.line :: Clause.lines rest

end

theorem Clause.lines_eq_map (parts : List Clause) : Clause.lines parts = parts.map Clause.line := by
  induction parts with
  | nil => rfl
  | cons part rest ih => simp [Clause.lines, ih]

section Atoms

variable {outer : List (Line (List Token))} {line : Line (List Token)} {read found : List Token}

theorem Literal.isValue_token (value : Literal) : value.token.isValue = true := by
  rcases value with _ | (_ | _) | _ | _ | _ <;> rfl

theorem Pattern.isValue_token (pattern : Pattern) : pattern.token.isValue = true := by
  cases pattern with
  | bare value => exact value.isValue_token
  | contains inner => rfl

theorem Comparison.isComparison_operator (comparison : Comparison) :
    (Token.operator comparison.symbol).isComparison = true := by
  cases comparison <;> decide

/-- A column is read up to the name that ends it. -/
theorem Identifier.foldlM_tokens {column : Identifier} (h : column.parts ≠ []) :
    column.tokens.foldlM Reader.step ⟨outer, line, .ready⟩ =
      some ⟨outer, line, .within .column column.tokens⟩ := by
  have hp : ∀ (parts : List String) (read : List Token), parts ≠ [] →
      (tokens ⟨parts⟩).foldlM Reader.step ⟨outer, line, .within .part read⟩ =
        some ⟨outer, line, .within .column (read ++ tokens ⟨parts⟩)⟩ := by
    intro parts
    induction parts with
    | nil => exact fun _ hn => absurd rfl hn
    | cons part parts ih =>
      intro read _
      cases parts with
      | nil => rfl
      | cons next parts =>
        rw [tokens_cons_cons]
        have hn := ih (read ++ [.name part, .dot]) (by simp)
        simpa [Reader.step, Spot.next] using hn
  obtain ⟨parts⟩ := column
  cases parts with
  | nil => exact absurd rfl h
  | cons part parts =>
    cases parts with
    | nil => rfl
    | cons next parts =>
      rw [tokens_cons_cons]
      have hn := hp (next :: parts) [.name part, .dot] (by simp)
      simpa [Reader.step, Spot.next, Spot.first] using hn

theorem Literal.foldlM_list (values : List Literal) (hne : values ≠ []) :
    ((values.map token).intersperse Token.comma ++ [Token.closing]).foldlM Reader.step
        ⟨outer, line, .within .value read⟩ =
      some ⟨outer, line.and (.operand (.atom (read ++
        ((values.map token).intersperse Token.comma ++ [Token.closing])))), .ended⟩ := by
  induction values generalizing read with
  | nil => exact absurd rfl hne
  | cons value values ih =>
    cases values with
    | nil => simp [Reader.step, Spot.next, value.isValue_token]
    | cons next values =>
      have hm := @ih (read ++ [value.token, .comma]) (by simp)
      simpa [Reader.step, Spot.next, value.isValue_token] using hm

/-- What comes after the column ends the atom. -/
theorem Reads.of_column {column : Identifier} (h : column.Proper)
    (hf : ∀ outer (line : Line (List Token)),
      found.foldlM Reader.step ⟨outer, line, .within .column column.tokens⟩ =
        some ⟨outer, line.and (.operand (.atom (column.tokens ++ found))), .ended⟩) :
    Reads (column.tokens ++ found) (.operand (.atom (column.tokens ++ found))) := by
  intro outer before
  rw [List.foldlM_append, Identifier.foldlM_tokens h.1]
  exact hf outer before

theorem Atom.reads {atom : Atom} (h : atom.Proper) :
    Reads atom.tokens (.operand (.atom atom.tokens)) := by
  cases atom with
  | isNull column =>
    exact Reads.of_column h fun _ _ => by simp [Reader.step, Spot.next]
  | isNotNull column =>
    exact Reads.of_column h fun _ _ => by simp [Reader.step, Spot.next]
  | compare column comparison value =>
    exact Reads.of_column h fun _ _ => by
      simp [Reader.step, Spot.next, comparison.isComparison_operator, value.isValue_token]
  | like column pattern =>
    exact Reads.of_column h.1 fun _ _ => by
      simp [Reader.step, Spot.next, pattern.isValue_token]
  | member column negated first rest =>
    rw [tokens, List.append_assoc]
    refine Reads.of_column h fun outer line => ?_
    cases negated with
    | false =>
      have hl := @Literal.foldlM_list outer line (column.tokens ++ [.word "IN", .opening])
        (first :: rest) (by simp)
      simpa [Reader.step, Spot.next] using hl
    | true =>
      have hl := @Literal.foldlM_list outer line
        (column.tokens ++ [.word "NOT", .word "IN", .opening]) (first :: rest) (by simp)
      simpa [Reader.step, Spot.next] using hl
  | never => exact fun _ _ => rfl
  | always => exact fun _ _ => rfl

end Atoms

theorem Clause.reads_intercalate {connective : Connective} {parts : List Clause} (hne : parts ≠ [])
    (h : ∀ part ∈ parts, Reads part.tokens part.line) :
    Reads ([Token.word connective.keyword].intercalate (parts.map tokens))
      (.join connective (parts.map line)) := by
  induction parts with
  | nil => exact absurd rfl hne
  | cons part parts ih =>
    cases parts with
    | nil => simpa [Line.join] using h part
    | cons next parts =>
      have hr := (h part (by simp)).op connective (ih (by simp) fun x hx => h x (by simp [hx]))
      simpa [List.intercalate, Line.join] using hr

/-- A condition is read as its row. -/
theorem Clause.reads {clause : Clause} (h : clause.Proper) : Reads clause.tokens clause.line := by
  induction h with
  | single h => exact Atom.reads h
  | @chain connective parts hne _ ih =>
    rw [tokens, line, allTokens_eq_map, lines_eq_map]
    exact reads_intercalate hne ih
  | parens _ ih => exact ih.parens

theorem Clause.expression?_text {clause : Clause} (h : clause.Proper) :
    expression? clause.text = some clause.line.expression := by
  rw [expression?, (scans h).tokens_eq]
  exact (reads h).read_eq

end JsonSelect
