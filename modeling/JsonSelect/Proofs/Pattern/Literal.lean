import JsonSelect.Proofs.Sql.Literal
import Mathlib.Data.List.Basic

/-! The literal of a LIKE pattern. For every text it is one string, whatever follows it, and holds the
text between percent signs with a backslash before each wildcard. -/
namespace JsonSelect.Pattern

open Sql

variable {text rest : List Char}

/-- What remains of a text without one percent sign at its start and, after that, without one at its
end. -/
def IsInner (text remaining : List Char) : Prop :=
  ∃ rest, (text = '%' :: rest ∨ text.head? ≠ some '%' ∧ text = rest) ∧
    (rest = remaining ++ ['%'] ∨ rest.getLast? ≠ some '%' ∧ rest = remaining)

/-- The same text with one backslash more before each wildcard. -/
inductive Guards : List Char → List Char → Prop where
  | nil : Guards [] []
  | wildcard {c : Char} {text content : List Char} (hc : c = '_' ∨ c = '%')
    (h : Guards text content) : Guards (c :: text) ('\\' :: c :: content)
  | other {c : Char} {text content : List Char} (hc : c ≠ '_' ∧ c ≠ '%')
    (h : Guards text content) : Guards (c :: text) (c :: content)

theorem isInner_inner (text : List Char) : IsInner text (inner text) := by
  refine ⟨if text.head? = some '%' then text.tail else text, ?_, ?_⟩
  · split
    next h => exact .inl (List.cons_head?_tail h).symm
    next h => exact .inr ⟨h, rfl⟩
  · simp only [inner]
    generalize (if text.head? = some '%' then text.tail else text) = rest
    split
    next h => exact .inl (List.dropLast_append_getLast? '%' h).symm
    next h => exact .inr ⟨h, rfl⟩

theorem guards_flatMap_guarded (text : List Char) : Guards text (text.flatMap guarded) := by
  induction text with
  | nil => exact .nil
  | cons c text ih =>
    rw [List.flatMap_cons]
    unfold guarded
    split
    next hc => exact .wildcard hc ih
    next hc => exact .other (not_or.mp hc) ih

/-- There is only one text that remains. -/
theorem IsInner.eq_inner {remaining : List Char} (h : IsInner text remaining) :
    inner text = remaining := by
  obtain ⟨rest, hs, he⟩ := h
  have hr : (if text.head? = some '%' then text.tail else text) = rest := by
    rcases hs with rfl | ⟨hs, rfl⟩
    · rfl
    · exact if_neg hs
  simp only [inner, hr]
  rcases he with rfl | ⟨he, rfl⟩
  · rw [if_pos List.getLast?_concat, List.dropLast_concat]
  · exact if_neg he

/-- One percent sign more at either end is taken away again. -/
theorem inner_of_surrounded (hs : text.head? ≠ some '%') (he : text.getLast? ≠ some '%') :
    inner text = text ∧ inner ('%' :: text) = text ∧ inner (text ++ ['%']) = text ∧
      inner ('%' :: (text ++ ['%'])) = text := by
  have hend : IsInner (text ++ ['%']) text := by
    cases text with
    | nil => exact ⟨[], .inl rfl, .inr ⟨nofun, rfl⟩⟩
    | cons c text => exact ⟨_, .inr ⟨hs, rfl⟩, .inl rfl⟩
  have hnone : IsInner text text := ⟨text, .inr ⟨hs, rfl⟩, .inr ⟨he, rfl⟩⟩
  have hstart : IsInner ('%' :: text) text := ⟨text, .inl rfl, .inr ⟨he, rfl⟩⟩
  have hboth : IsInner ('%' :: (text ++ ['%'])) text := ⟨_, .inl rfl, .inl rfl⟩
  exact ⟨hnone.eq_inner, hstart.eq_inner, hend.eq_inner, hboth.eq_inner⟩

theorem ofLiteral_surrounded {text : String} (hs : text.toList.head? ≠ some '%')
    (he : text.toList.getLast? ≠ some '%') :
    ∀ operand ∈ [text, "%" ++ text, text ++ "%", "%" ++ text ++ "%"],
      ofLiteral (.text operand) = .ok (contains text) := by
  obtain ⟨hnone, hstart, hend, hboth⟩ := inner_of_surrounded hs he
  simp [ofLiteral, hnone, hstart, hend, hboth]

/-- The guards of the wildcards go between the escapes of the other characters. -/
theorem stringBody?_guarded (c : Char) (rest : List Char) :
    stringBody? ((Literal.escapedChar c).flatMap guarded ++ rest) =
      (stringBody? rest).map fun (content, after) => (guarded c ++ content, after) := by
  unfold Literal.escapedChar
  split
  case h_10 hb =>
    rw [List.flatMap_singleton]
    unfold guarded
    split
    next hc => rcases hc with rfl | rfl <;> rfl
    next => exact stringBody?_cons (by assumption) (by assumption)
  all_goals rfl

theorem literal?_contains (inner : String) (h : rest.head? ≠ some '"') :
    literal? ((contains inner).text.toList ++ rest) = some (.text (ofInner inner), rest) := by
  have hp : ∀ rest, stringBody? ('%' :: rest) =
      (stringBody? rest).map fun (content, after) => ('%' :: content, after) :=
    fun rest => stringBody?_cons (by decide) (by decide)
  simp only [Pattern.text, Literal.escapedText, List.flatMap_assoc, String.toList_ofList,
    List.cons_append, List.append_assoc, List.nil_append, literal?]
  rw [hp, stringBody?_flatMap stringBody?_guarded, hp, stringBody?_end h]
  rfl

/-- The literal of a text's pattern is read whole and leaves what follows it. Its content is what
remains of the text, with guarded wildcards, between two percent signs; so percent signs around a
text change nothing. -/
theorem literal_reads_back (text : String) : ∃ pattern remaining content,
    ofLiteral (.text text) = .ok pattern ∧ IsInner text.toList remaining ∧
    Guards remaining content ∧
    (∀ rest, rest.head? ≠ some '"' → literal? (pattern.text.toList ++ rest) =
      some (.text (String.ofList ('%' :: content ++ ['%'])), rest)) ∧
    (text.toList.head? ≠ some '%' → text.toList.getLast? ≠ some '%' →
      ∀ operand ∈ [text, "%" ++ text, text ++ "%", "%" ++ text ++ "%"],
        ofLiteral (.text operand) = .ok pattern) := by
  refine ⟨contains (String.ofList (inner text.toList)), inner text.toList,
    (inner text.toList).flatMap guarded, rfl, isInner_inner _, guards_flatMap_guarded _,
    fun rest hr => ?_, fun hs he => ?_⟩
  · rw [literal?_contains _ hr, ofInner, String.toList_ofList]
  · rw [(inner_of_surrounded hs he).1, String.ofList_toList]
    exact ofLiteral_surrounded hs he

/-- A quote, a backslash before a wildcard, and a parenthesis after the literal. -/
theorem literal_reads_back_wildcards :
    let text := "a\"_\\%b"
    [')'].head? ≠ some '"' ∧ text.toList.head? ≠ some '%' ∧ text.toList.getLast? ≠ some '%' ∧
    ∃ pattern remaining content, ofLiteral (.text text) = .ok pattern ∧
      IsInner text.toList remaining ∧ Guards remaining content ∧
      literal? (pattern.text.toList ++ [')']) =
        some (.text (String.ofList ('%' :: content ++ ['%'])), [')']) ∧
      ofLiteral (.text ("%" ++ text ++ "%")) = .ok pattern := by
  intro text
  have hr : [')'].head? ≠ some '"' := by decide
  have hs : text.toList.head? ≠ some '%' := by decide +kernel
  have he : text.toList.getLast? ≠ some '%' := by decide +kernel
  obtain ⟨pattern, remaining, content, hp, hi, hg, hl, ho⟩ := literal_reads_back text
  exact ⟨hr, hs, he, pattern, remaining, content, hp, hi, hg, hl _ hr, ho hs he _ (by simp)⟩

example : literal? ((contains "a\"_\\%b").text.toList ++ [')']) =
    some (.text "%a\"\\_\\\\%b%", [')']) := by decide +kernel

end JsonSelect.Pattern
