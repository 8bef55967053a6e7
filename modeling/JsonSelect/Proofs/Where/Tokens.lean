import JsonSelect.Proofs.Sql.Numeral
import JsonSelect.Proofs.Where.Proper

/-! The tokens of a condition. The scanner finds exactly these in its text. -/
namespace JsonSelect

open Sql

def Identifier.tokens (column : Identifier) : List Token :=
  (column.parts.map Token.name).intersperse .dot

/-- Every value is one token, whatever it contains. -/
def Literal.token : Literal → Token
  | null => .word "NULL"
  | bool true => .word "true"
  | bool false => .word "false"
  | number value => .number value.text
  | text value => .string value
  | bytes value => .bytes (String.ofList (value.flatMap hexPair))

/-- The pattern that LIKE is given for a text: the text anywhere, its wildcards guarded. -/
def Pattern.ofInner (inner : String) : String :=
  String.ofList ('%' :: inner.toList.flatMap guarded ++ ['%'])

def Pattern.token : Pattern → Token
  | bare value => value.token
  | contains inner => .string (ofInner inner)

def Atom.tokens : Atom → List Token
  | isNull column => column.tokens ++ [.word "IS", .word "NULL"]
  | isNotNull column => column.tokens ++ [.word "IS", .word "NOT", .word "NULL"]
  | compare column comparison value =>
    column.tokens ++ [.operator comparison.symbol, value.token]
  | like column pattern => column.tokens ++ [.word "LIKE", pattern.token]
  | member column negated first rest =>
    column.tokens ++ (if negated then [.word "NOT", .word "IN"] else [.word "IN"]) ++
      .opening :: (((first :: rest).map Literal.token).intersperse .comma ++ [.closing])
  | never => [.number "1", .operator "=", .number "0"]
  | always => [.number "1", .operator "=", .number "1"]

mutual

def Clause.tokens : Clause → List Token
  | .single atom => atom.tokens
  | .chain connective parts => [Token.word connective.keyword].intercalate (Clause.allTokens parts)
  | .parens inner => .opening :: (inner.tokens ++ [.closing])

def Clause.allTokens : List Clause → List (List Token)
  | [] => []
  | part :: rest => part.tokens :: Clause.allTokens rest

end

theorem Clause.allTokens_eq_map (parts : List Clause) :
    Clause.allTokens parts = parts.map Clause.tokens := by
  induction parts with
  | nil => rfl
  | cons part rest ih => simp [Clause.allTokens, ih]

theorem Connective.spellsWord_keyword (connective : Connective) :
    spellsWord connective.keyword.toList = true := by
  cases connective <;> decide

namespace Sql

variable {α : Type} {text : α → String} {found : α → List Token} {items : List α}

theorem scans_words {word : String} (hw : spellsWord word.toList = true) (hne : items ≠ [])
    (h : ∀ item ∈ items, Scans (text item).toList (found item)) :
    Scans ((" " ++ word ++ " ").intercalate (items.map text)).toList
      ([Token.word word].intercalate (items.map found)) := by
  induction items with
  | nil => exact absurd rfl hne
  | cons item items ih =>
    cases items with
    | nil => simpa using h item
    | cons next items =>
      have hs := (h item (by simp)).space
        ((scans_word hw).space (ih (by simp) fun x hx => h x (by simp [hx])))
      simpa [List.intercalate] using hs

end Sql

namespace Identifier

variable {part next : String} {parts : List String}

theorem text_cons_cons :
    text ⟨part :: next :: parts⟩ = "`" ++ part ++ "`." ++ text ⟨next :: parts⟩ := by
  rw [← String.toList_inj]
  simp [text]

theorem tokens_cons_cons :
    tokens ⟨part :: next :: parts⟩ = .name part :: .dot :: tokens ⟨next :: parts⟩ := by
  simp [tokens]

theorem scans {column : Identifier} (h : column.Proper) :
    Scans column.text.toList column.tokens := by
  obtain ⟨parts⟩ := column
  induction parts with
  | nil => exact absurd rfl h.1
  | cons part parts ih =>
    intro rest hr
    have hp : '`' ∉ part.toList := h.2 part (by simp)
    cases parts with
    | nil => simpa [text, tokens] using scan_name hp (hr.head?_ne (by decide))
    | cons next parts =>
      have hm := ih ⟨by simp, fun x hx => h.2 x (List.mem_cons_of_mem _ hx)⟩ rest hr
      have hd : scan .between ('.' :: ((text ⟨next :: parts⟩).toList ++ rest)) = _ :=
        scan_cons rfl
      have ht : (text ⟨part :: next :: parts⟩).toList ++ rest =
          '`' :: (part.toList ++ '`' :: '.' :: ((text ⟨next :: parts⟩).toList ++ rest)) := by
        simp [text_cons_cons]
      rw [ht, scan_name hp (by simp), hd, hm, tokens_cons_cons]
      simp [Function.comp_def]

end Identifier

theorem Literal.isHexDigit_hexPairs (bytes : List UInt8) :
    ∀ c ∈ bytes.flatMap hexPair, isHexDigit c = true := by
  intro c hc
  obtain ⟨byte, _, hm⟩ := List.mem_flatMap.mp hc
  have hx : ∀ n < 16, isHexDigit n.digitChar = true := by decide
  have hb : byte.toNat < 256 := byte.toNat_lt
  rcases List.mem_cons.mp hm with rfl | hm
  · exact hx _ (by omega)
  · rw [List.mem_singleton.mp hm]
    exact hx _ (by omega)

theorem Literal.scans_quoted (value : Literal) : Scans value.quoted.toList [value.token] := by
  cases value with
  | null => exact scans_word (by decide)
  | bool value => cases value <;> exact scans_word (by decide)
  | number value => simpa [quoted, escaped, token] using (isNumeral_text value).scans
  | text value =>
    intro rest hr
    have hq : step .between '"' = some ([], .string []) := rfl
    simp only [quoted, String.toList_ofList, List.cons_append, List.append_assoc, List.nil_append,
      escapedText, token]
    rw [scan_cons hq, scan_content scan_escapedChar, scan_stringEnd (hr.head?_ne (by decide))]
    simp
  | bytes value => simpa [quoted, escaped, token] using scans_bytes (isHexDigit_hexPairs value)

theorem Pattern.scans_text {pattern : Pattern} (h : pattern.Proper) :
    Scans pattern.text.toList [pattern.token] := by
  cases pattern with
  | bare value =>
    have hs := value.scans_quoted
    cases value with
    | bool | number => exact hs
    | null | text | bytes => cases h
  | contains inner =>
    intro rest hr
    have hq : step .between '"' = some ([], .string []) := rfl
    have hp : ∀ read, step (.string read) '%' = some ([], .string (read ++ ['%'])) := fun _ => rfl
    simp only [text, String.toList_ofList, List.cons_append, List.append_assoc, List.nil_append,
      Literal.escapedText, List.flatMap_assoc]
    rw [scan_cons hq, scan_cons (hp _), scan_content scan_guarded, scan_cons (hp _),
      scan_stringEnd (hr.head?_ne (by decide))]
    simp [token, ofInner]

theorem Comparison.scans_symbol (comparison : Comparison) :
    Scans comparison.symbol.toList [.operator comparison.symbol] := by
  cases comparison <;>
    exact scans_operator (by decide) (by simp [Comparison.symbol, isOperatorPart])

theorem Literal.scans_list {values : List Literal} (hne : values ≠ []) :
    Scans (", ".intercalate (values.map quoted)).toList
      ((values.map token).intersperse .comma) := by
  induction values with
  | nil => exact absurd rfl hne
  | cons value values ih =>
    cases values with
    | nil => simpa using value.scans_quoted
    | cons next values => simpa using value.scans_quoted.comma (ih (by simp))

/-- The conditions without a column compare two digits, with no blank between them. -/
theorem scans_constant {c : Char} (h : c.isDigit = true) :
    Scans ['1', '=', c] [.number "1", .operator "=", .number (String.ofList [c])] := by
  intro rest hr
  have h1 : step .between '1' = some ([], .number .whole ['1']) := rfl
  have he : step (.number .whole ['1']) '=' = some ([.number "1"], .operator ['=']) := rfl
  have hn : isOperatorPart c = false := by
    cases hp : isOperatorPart c with
    | false => rfl
    | true => exact absurd ((start_of_isDigit h).symm.trans (start_of_isOperatorPart hp)) (by simp)
  have hc : step (.operator ['=']) c = some ([.operator "="], .number .whole [c]) := by
    simp [step, hn, startAfter, State.finish, start_of_isDigit h]
  rw [List.cons_append, List.cons_append, List.cons_append, List.nil_append, scan_cons h1,
    scan_cons he, scan_cons hc, scan_of_boundary rfl ?_ hr]
  · simp [Function.comp_def]
  · rintro c (rfl | rfl | rfl) <;> rfl

theorem Atom.scans {atom : Atom} (h : atom.Proper) : Scans atom.text.toList atom.tokens := by
  have hword : ∀ word : String, spellsWord word.toList = true → Scans word.toList [.word word] :=
    fun _ hw => scans_word hw
  cases atom with
  | isNull column =>
    simpa [text, tokens] using
      (Identifier.scans h).space ((hword "IS" (by decide)).space (hword "NULL" (by decide)))
  | isNotNull column =>
    simpa [text, tokens] using (Identifier.scans h).space ((hword "IS" (by decide)).space
      ((hword "NOT" (by decide)).space (hword "NULL" (by decide))))
  | compare column comparison value =>
    simpa [text, tokens] using
      (Identifier.scans h).space (comparison.scans_symbol.space value.scans_quoted)
  | like column pattern =>
    simpa [text, tokens] using
      (Identifier.scans h.1).space ((hword "LIKE" (by decide)).space (Pattern.scans_text h.2))
  | member column negated first rest =>
    have hl := (Literal.scans_list (List.cons_ne_nil first rest)).parens
    cases negated with
    | false =>
      simpa [text, tokens] using (Identifier.scans h).space ((hword "IN" (by decide)).space hl)
    | true =>
      simpa [text, tokens] using (Identifier.scans h).space ((hword "NOT" (by decide)).space
        ((hword "IN" (by decide)).space hl))
  | never | always => exact scans_constant rfl

/-- The scanner finds the tokens of a condition in its text. -/
theorem Clause.scans {clause : Clause} (h : clause.Proper) :
    Scans clause.text.toList clause.tokens := by
  induction h with
  | single h => exact Atom.scans h
  | @chain connective parts hne _ ih =>
    rw [text, tokens, texts_eq_map, allTokens_eq_map]
    exact scans_words connective.spellsWord_keyword hne ih
  | parens _ ih => simpa [text, tokens] using ih.parens

end JsonSelect
