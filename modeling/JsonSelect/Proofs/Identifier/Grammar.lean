import JsonSelect.Proofs.Identifier
import JsonSelect.Proofs.Where.Tokens
import Mathlib

/-! The grammar of strict names. A name that the strict policy takes is found again in its parts, and
its parts are found again in the text that stands for it in a statement. -/
namespace JsonSelect

def Sql.Token.name? : Token → Option String
  | name content => some content
  | _ => none

namespace Identifier

open Sql

variable {c : Char} {text segment : List Char} {name : String} {column : Identifier}

/-- Letters of ASCII. -/
def IsLetter (c : Char) : Prop := 'A' ≤ c ∧ c ≤ 'Z' ∨ 'a' ≤ c ∧ c ≤ 'z'

/-- A letter or `_`, and after it letters, digits, `_` and `$`. -/
inductive IsSegment : List Char → Prop where
  | mk {first : Char} {rest : List Char} (hf : first = '_' ∨ IsLetter first)
    (hr : ∀ c ∈ rest, c = '_' ∨ c = '$' ∨ IsLetter c ∨ '0' ≤ c ∧ c ≤ '9') :
    IsSegment (first :: rest)

/-- Segments with one dot between each and the next. -/
inductive IsPath : List Char → Prop where
  | last {segment : List Char} (h : IsSegment segment) : IsPath segment
  | dot {segment rest : List Char} (h : IsSegment segment) (hr : IsPath rest) :
    IsPath (segment ++ '.' :: rest)

theorem isAlpha_iff : c.isAlpha = true ↔ IsLetter c := by
  simp [Char.isAlpha, Char.isUpper, Char.isLower, IsLetter, Char.le_def]

theorem isStart_iff : isStart c = true ↔ c = '_' ∨ IsLetter c := by
  simp [isStart, isAlpha_iff]

theorem isInner_iff : isInner c = true ↔ c = '_' ∨ c = '$' ∨ IsLetter c ∨ '0' ≤ c ∧ c ≤ '9' := by
  simp [isInner, Char.isAlphanum, isAlpha_iff, Char.isDigit, Char.le_def, or_assoc]

theorem isWord_iff_isSegment : IsWord segment ↔ IsSegment segment := by
  constructor
  · rintro ⟨first, rest, rfl, hf, hr⟩
    exact .mk (isStart_iff.mp hf) fun c hc => isInner_iff.mp (hr c hc)
  · rintro ⟨hf, hr⟩
    exact isWord_cons.mpr ⟨isStart_iff.mpr hf, fun c hc => isInner_iff.mpr (hr c hc)⟩

theorem isPath_intercalate {words : List (List Char)} (hne : words ≠ [])
    (h : ∀ word ∈ words, IsWord word) : IsPath (['.'].intercalate words) := by
  induction words with
  | nil => exact absurd rfl hne
  | cons word words ih =>
    have hw := isWord_iff_isSegment.mp (h word List.mem_cons_self)
    cases words with
    | nil => simpa using IsPath.last hw
    | cons next words =>
      have hr := ih (List.cons_ne_nil _ _) fun w hm => h w (List.mem_cons_of_mem _ hm)
      simpa [List.intercalate_cons_cons] using IsPath.dot hw hr

theorem exists_words_of_isPath (h : IsPath text) :
    ∃ words, words ≠ [] ∧ (∀ word ∈ words, IsWord word) ∧ text = ['.'].intercalate words := by
  induction h with
  | @last segment h =>
    exact ⟨[segment], List.cons_ne_nil _ _, by simpa using isWord_iff_isSegment.mpr h, by simp⟩
  | @dot segment rest h _ ih =>
    obtain ⟨words, hne, hw, rfl⟩ := ih
    refine ⟨segment :: words, List.cons_ne_nil _ _,
      List.forall_mem_cons.mpr ⟨isWord_iff_isSegment.mpr h, hw⟩, ?_⟩
    obtain ⟨word, more, rfl⟩ := List.exists_cons_of_ne_nil hne
    simp [List.intercalate_cons_cons]

theorem isDotted_iff_isPath : IsDotted name ↔ IsPath name.toList := by
  constructor
  · rintro ⟨words, hne, hw, hn⟩
    rw [hn]
    exact isPath_intercalate hne hw
  · exact exists_words_of_isPath

theorem backquote_notMem_of_isPath (h : IsPath text) : '`' ∉ text := by
  have hs : ∀ {segment : List Char}, IsSegment segment → '`' ∉ segment := by
    rintro _ ⟨hf, hr⟩ hm
    rcases List.mem_cons.mp hm with rfl | hm
    · exact absurd (isStart_iff.mpr hf) (by decide)
    · exact absurd (isInner_iff.mpr (hr _ hm)) (by decide)
  induction h with
  | last h => exact hs h
  | dot h _ ih => simp [hs h, ih]

theorem exists_strict_iff : (∃ column, ofName .strict name = .ok column) ↔ IsPath name.toList := by
  rw [(decides_ofName .strict name).exists_ok_iff, ← isDotted_iff_isPath]
  exact ⟨fun h => h rfl, fun h _ => h⟩

theorem names_tokens (column : Identifier) :
    column.tokens.filterMap Token.name? = column.parts := by
  obtain ⟨parts⟩ := column
  induction parts with
  | nil => rfl
  | cons part parts ih =>
    cases parts with
    | nil => rfl
    | cons next parts =>
      rw [tokens_cons_cons]
      exact congrArg (part :: ·) ih

/-- No backquote is there but those around the parts. -/
theorem count_backquote (h : Unquoted column.parts) :
    column.text.toList.count '`' = 2 * column.parts.length := by
  obtain ⟨parts⟩ := column
  induction parts with
  | nil => rfl
  | cons part parts ih =>
    have hp : part.toList.count '`' = 0 := List.count_eq_zero.mpr (h part List.mem_cons_self)
    cases parts with
    | nil => simp [text, hp]
    | cons next parts =>
      have hr := ih fun x hx => h x (List.mem_cons_of_mem _ hx)
      simp [text_cons_cons, hp, hr]
      omega

theorem intercalate_parts (h : ofName .strict name = .ok column) :
    ".".intercalate column.parts = name := by
  rw [← String.toList_inj, String.toList_intercalate, (parts_of_strict h).1, segments_eq_splitOn]
  exact List.intercalate_splitOn '.'

theorem tokens_text (h : ofName .strict name = .ok column) :
    Sql.tokens column.text = some column.tokens :=
  (scans (proper_of_strict h)).tokens_eq

/-- The strict policy takes a path of segments and no other name. The name can be put together again
from the parts, and the parts can be told from each other in the text. -/
theorem strict_takes_paths (name : String) :
    ((∃ column, ofName .strict name = .ok column) ↔ IsPath name.toList) ∧
    (∀ error, ofName .strict name = .error error → error.kind = .validation) ∧
    ∀ column, ofName .strict name = .ok column →
      ".".intercalate column.parts = name ∧
      column.text.toList.count '`' = 2 * column.parts.length ∧
      (∀ part ∈ column.parts, '`' ∉ part.toList) ∧
      Sql.tokens column.text = some ((column.parts.map Token.name).intersperse .dot) ∧
      ∀ other otherColumn, ofName .strict other = .ok otherColumn →
        otherColumn.text = column.text → other = name := by
  have hd := decides_ofName .strict name
  refine ⟨?_, fun error => hd.of_error, fun column h => ?_⟩
  · rw [hd.exists_ok_iff, ← isDotted_iff_isPath]
    exact ⟨fun hs => hs rfl, fun hs _ => hs⟩
  · have hp := (proper_of_strict h).2
    refine ⟨intercalate_parts h, count_backquote hp, hp, tokens_text h, fun other oc ho ht => ?_⟩
    have he : oc.tokens = column.tokens := by
      have hs := tokens_text ho
      rw [ht, tokens_text h] at hs
      exact (Option.some.inj hs).symm
    have hparts : oc.parts = column.parts := by
      rw [← names_tokens oc, he, names_tokens column]
    rw [← intercalate_parts h, ← hparts, intercalate_parts ho]

/-- A name of two parts, and one whose second part starts with a letter beyond ASCII. -/
theorem strict_takes_paths_two_parts :
    let name := "db.my_var$1"
    let column : Identifier := ⟨["db", "my_var$1"]⟩
    ofName .strict name = .ok column ∧ IsPath name.toList ∧
    ".".intercalate column.parts = name ∧ column.text.toList.count '`' = 2 * 2 ∧
    (∀ part ∈ column.parts, '`' ∉ part.toList) ∧
    Sql.tokens column.text = some [.name "db", .dot, .name "my_var$1"] ∧
    ofName .strict "db.été" = .error (.badStart 'é') ∧ (Error.badStart 'é').kind = .validation := by
  intro name column
  have hs : segments name.toList = [['d', 'b'], ['m', 'y', '_', 'v', 'a', 'r', '$', '1']] := by
    decide +kernel
  have h : ofName .strict name = .ok column := by
    rw [ofName, ofStrict, if_neg (by decide), hs]
    rfl
  have he : ofName .strict "db.été" = .error (.badStart 'é') := rfl
  obtain ⟨hparts, hcount, hquotes, htokens, -⟩ := (strict_takes_paths name).2.2 column h
  exact ⟨h, (strict_takes_paths name).1.mp ⟨column, h⟩, hparts, hcount, hquotes, htokens, he,
    (strict_takes_paths "db.été").2.1 _ he⟩

end Identifier
end JsonSelect
