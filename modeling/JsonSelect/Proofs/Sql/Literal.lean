import JsonSelect.Proofs.Where.Tokens

/-! A reader of MySQL literals. It reads every value of a condition back from its text, doubles
apart, whatever follows the text. -/
namespace JsonSelect

namespace Sql

/-- The content of a string and what follows its closing quote, from behind the opening one. -/
def stringBody? : List Char → Option (List Char × List Char)
  | [] => none
  | '"' :: '"' :: rest => (stringBody? rest).map fun (content, after) => ('"' :: content, after)
  | '"' :: rest => some ([], rest)
  | '\\' :: c :: rest =>
    (stringBody? rest).map fun (content, after) => (unescaped c ++ content, after)
  | c :: rest => (stringBody? rest).map fun (content, after) => (c :: content, after)

/-- Digits of both cases. -/
def hexValue? (c : Char) : Option Nat :=
  if c.isDigit then some (c.toNat - '0'.toNat)
  else if 'a' ≤ c ∧ c ≤ 'f' then some (c.toNat - 'a'.toNat + 10)
  else if 'A' ≤ c ∧ c ≤ 'F' then some (c.toNat - 'A'.toNat + 10)
  else none

/-- Bytes of two digits each, and what follows the closing quote. -/
def bytesBody? : List Char → Option (List UInt8 × List Char)
  | '"' :: rest => some ([], rest)
  | high :: low :: rest => do
    let high ← hexValue? high
    let low ← hexValue? low
    let (bytes, after) ← bytesBody? rest
    pure (UInt8.ofNat (high * 16 + low) :: bytes, after)
  | _ => none

/-- All the digits at the start of a text, with no point and no word attached to them. -/
def digits? (text : List Char) : Option (Nat × List Char) :=
  let digits := text.takeWhile Char.isDigit
  let rest := text.dropWhile Char.isDigit
  if digits = [] ∨ rest.head?.any (fun c => c = '.' || isWordPart c) then none
  else some (Nat.ofDigitChars 10 digits 0, rest)

/-- The literals that are words, in letters of either case. -/
def keyword? (text : List Char) : Option (Literal × List Char) :=
  let rest := text.dropWhile isWordPart
  match String.ofList ((text.takeWhile isWordPart).map Char.toLower) with
  | "null" => some (.null, rest)
  | "true" => some (.bool true, rest)
  | "false" => some (.bool false, rest)
  | _ => none

/-- The literal at the start of a text, and the text after it. -/
def literal? : List Char → Option (Literal × List Char)
  | '"' :: rest =>
    (stringBody? rest).map fun (content, after) => (.text (String.ofList content), after)
  | 'X' :: '"' :: rest => (bytesBody? rest).map fun (bytes, after) => (.bytes bytes, after)
  | '-' :: rest => (digits? rest).map fun (n, after) => (.ofInt (-n), after)
  | text => ((digits? text).map fun (n, after) => (.ofInt n, after)) <|> keyword? text

/-- Neither a quote, a letter, a digit, `_`, `$` nor a point comes next. -/
def Ends (rest : List Char) : Prop :=
  ∀ c ∈ rest.head?, c ≠ '"' ∧ c ≠ '.' ∧ isWordPart c = false

variable {text rest : List Char}

theorem isWordPart_of_isDigit {c : Char} (h : c.isDigit = true) : isWordPart c = true := by
  simp [isWordPart, Char.isAlphanum, h]

theorem stringBody?_cons {c : Char} (hq : c ≠ '"') (hb : c ≠ '\\') :
    stringBody? (c :: rest) =
      (stringBody? rest).map fun (content, after) => (c :: content, after) := by
  rw [stringBody?] <;> simp [hq, hb]

theorem stringBody?_end (h : rest.head? ≠ some '"') : stringBody? ('"' :: rest) = some ([], rest) := by
  cases rest with
  | nil => rfl
  | cons c rest =>
    have hc : c ≠ '"' := by simpa using h
    rw [stringBody?]
    simp [hc]

theorem stringBody?_escapedChar (c : Char) : stringBody? (Literal.escapedChar c ++ rest) =
    (stringBody? rest).map fun (content, after) => (c :: content, after) := by
  unfold Literal.escapedChar
  split
  case h_10 => exact stringBody?_cons (by assumption) (by assumption)
  all_goals rfl

/-- Characters that are each written in a form that reads back inside the quotes. -/
theorem stringBody?_flatMap {written meant : Char → List Char}
    (h : ∀ c rest, stringBody? (written c ++ rest) =
      (stringBody? rest).map fun (content, after) => (meant c ++ content, after)) :
    stringBody? (text.flatMap written ++ rest) =
      (stringBody? rest).map fun (content, after) => (text.flatMap meant ++ content, after) := by
  induction text with
  | nil => exact Option.map_id_apply.symm
  | cons c text ih =>
    rw [List.flatMap_cons, List.append_assoc, h, ih, Option.map_map]
    simp [Function.comp_def]

theorem stringBody?_escapedText (h : rest.head? ≠ some '"') :
    stringBody? (Literal.escapedText text ++ '"' :: rest) = some (text, rest) := by
  have hc : ∀ c rest, stringBody? (Literal.escapedChar c ++ rest) =
      (stringBody? rest).map fun (content, after) => ([c] ++ content, after) :=
    fun c rest => stringBody?_escapedChar c
  rw [Literal.escapedText, stringBody?_flatMap hc, stringBody?_end h]
  simp

theorem hexValue?_digitChar {n : Nat} (h : n < 16) : hexValue? n.digitChar = some n := by
  have hd : ∀ n < 16, hexValue? n.digitChar = some n := by decide
  exact hd n h

theorem bytesBody?_hexPairs (bytes : List UInt8) :
    bytesBody? (bytes.flatMap Literal.hexPair ++ '"' :: rest) = some (bytes, rest) := by
  induction bytes with
  | nil => rfl
  | cons byte bytes ih =>
    have hb : byte.toNat < 256 := byte.toNat_lt
    have hv : UInt8.ofNat (byte.toNat / 16 * 16 + byte.toNat % 16) = byte := by
      rw [Nat.div_add_mod']
      exact UInt8.ofNat_toNat
    have hh : byte.toNat / 16 < 16 := by omega
    have hl : byte.toNat % 16 < 16 := by omega
    have hq : (byte.toNat / 16).digitChar ≠ '"' := by
      intro he
      have hd := hexValue?_digitChar hh
      rw [he] at hd
      cases hd
    have hs : bytesBody? ((byte :: bytes).flatMap Literal.hexPair ++ '"' :: rest) =
        bytesBody? ((byte.toNat / 16).digitChar :: (byte.toNat % 16).digitChar ::
          (bytes.flatMap Literal.hexPair ++ '"' :: rest)) := rfl
    rw [hs, bytesBody?]
    · simp only [hexValue?_digitChar hh, hexValue?_digitChar hl, ih, Option.bind_eq_bind,
        Option.bind_some, hv]
      rfl
    · simp [hq]

theorem digits?_toDigits (n : Nat) (h : Ends rest) :
    digits? (Nat.toDigits 10 n ++ rest) = some (n, rest) := by
  obtain ⟨hne, hd⟩ := isDigits_toDigits n
  have hr : ∀ c ∈ rest.head?, c.isDigit = false := fun c hc => by
    have hw := (h c hc).2.2
    cases hi : c.isDigit with
    | false => rfl
    | true => rw [isWordPart_of_isDigit hi] at hw; cases hw
  have ht := Text.takeWhile_run hd hr
  have hdrop := Text.dropWhile_run hd hr
  have ha : rest.head?.any (fun c => c = '.' || isWordPart c) = false := by
    rw [Option.any_eq_false]
    intro c hc
    simp [(h c hc).2.1, (h c hc).2.2]
  simp only [digits?, ht, hdrop, hne, ha, false_or, Bool.false_eq_true, if_false,
    Nat.ofDigitChars_ten_toDigits]

/-- A digit begins none of the other literals. -/
theorem literal?_of_digits {c : Char} {n : Nat} (hc : c.isDigit = true)
    (h : digits? (c :: text) = some (n, rest)) : literal? (c :: text) = some (.ofInt n, rest) := by
  have hq := ne_of_class hc '"' rfl
  have hx := ne_of_class hc 'X' rfl
  have hm := ne_of_class hc '-' rfl
  rw [literal?]
  · simp [h]
  · simp [hq]
  · simp [hx]
  · simp [hm]

theorem literal?_toDigits (n : Nat) (h : Ends rest) :
    literal? (Nat.toDigits 10 n ++ rest) = some (.ofInt n, rest) := by
  obtain ⟨hne, hd⟩ := isDigits_toDigits n
  have hr := digits?_toDigits n h
  cases ht : Nat.toDigits 10 n with
  | nil => exact absurd ht hne
  | cons c digits =>
    rw [ht] at hd hr
    exact literal?_of_digits (hd c (by simp)) hr

theorem literal?_integer (value : Int) (h : Ends rest) :
    literal? ((toString value).toList ++ rest) = some (.ofInt value, rest) := by
  rw [Text.toList_toString]
  split
  next hv =>
    have hn : -(value.natAbs : Int) = value := by omega
    have hs : literal? ('-' :: (Nat.toDigits 10 value.natAbs ++ rest)) =
        some (.ofInt (-(value.natAbs : Int)), rest) := by
      rw [literal?, digits?_toDigits _ h]
      rfl
    rw [hn] at hs
    exact hs
  next hv =>
    have hn : (value.natAbs : Int) = value := by omega
    rw [List.nil_append, literal?_toDigits _ h, hn]

theorem literal?_of_isWordStart {c : Char} (hc : isWordStart c = true) (hx : c ≠ 'X') :
    literal? (c :: text) = keyword? (c :: text) := by
  have hq := ne_of_class hc '"' rfl
  have hm := ne_of_class hc '-' rfl
  have hd : digits? (c :: text) = none := by
    simp [digits?, isDigit_eq_false_of_isWordStart hc]
  rw [literal?]
  · simp [hd]
  · simp [hq]
  · simp [hx]
  · simp [hm]

theorem keyword?_append {word : List Char} {value : Literal}
    (hw : word.all isWordPart = true) (hv : keyword? word = some (value, []))
    (h : Ends rest) : keyword? (word ++ rest) = some (value, rest) := by
  have hp := List.all_eq_true.mp hw
  have hr : ∀ c ∈ rest.head?, isWordPart c = false := fun c hc => (h c hc).2.2
  have hwt : word.takeWhile isWordPart = word := List.takeWhile_eq_self_iff.mpr hp
  have hwd : word.dropWhile isWordPart = [] := List.dropWhile_eq_nil_iff.mpr hp
  simp only [keyword?, hwt, hwd] at hv
  simp only [keyword?, Text.takeWhile_run hp hr, Text.dropWhile_run hp hr]
  split at hv <;> cases hv <;> rfl

end Sql

namespace Literal

open Sql

variable {rest : List Char}

def isDouble : Literal → Bool
  | number (.double _) => true
  | _ => false

theorem literal?_quoted {value : Literal} (hv : value.isDouble = false) (h : Ends rest) :
    literal? (value.quoted.toList ++ rest) = some (value, rest) := by
  cases value with
  | null =>
    have hk : keyword? (['N', 'U', 'L', 'L'] ++ rest) = some (null, rest) :=
      keyword?_append rfl rfl h
    exact (literal?_of_isWordStart rfl (by decide)).trans hk
  | bool value =>
    cases value with
    | true =>
      have hk : keyword? (['t', 'r', 'u', 'e'] ++ rest) = some (bool true, rest) :=
        keyword?_append rfl rfl h
      exact (literal?_of_isWordStart rfl (by decide)).trans hk
    | false =>
      have hk : keyword? (['f', 'a', 'l', 's', 'e'] ++ rest) = some (bool false, rest) :=
        keyword?_append rfl rfl h
      exact (literal?_of_isWordStart rfl (by decide)).trans hk
  | number value =>
    cases value with
    | integer value => exact literal?_integer value h
    | double value => cases hv
  | text value =>
    have hq : rest.head? ≠ some '"' := fun he => (h '"' he).1 rfl
    have hs := @stringBody?_escapedText value.toList rest hq
    simp only [quoted, String.toList_ofList, List.cons_append, List.append_assoc,
      List.nil_append, literal?, hs, Option.map_some, String.ofList_toList]
  | bytes value =>
    have hs := @bytesBody?_hexPairs rest value
    simp only [quoted, escaped, String.toList_ofList, List.cons_append, List.append_assoc,
      List.nil_append, literal?, hs, Option.map_some]

/-- Every value but a double is read back from its text and leaves what follows, so that no other
value has the same text. -/
theorem quoted_reads_back (value : Literal) (hv : value.isDouble = false) :
    (∀ rest, Ends rest → literal? (value.quoted.toList ++ rest) = some (value, rest)) ∧
    ∀ other : Literal, other.isDouble = false → value.quoted = other.quoted → value = other := by
  refine ⟨fun rest => literal?_quoted hv, fun other ho he => ?_⟩
  have hn : Ends [] := by simp [Ends]
  have hr := literal?_quoted hv hn
  rw [he, literal?_quoted ho hn] at hr
  exact (Prod.mk.inj (Option.some.inj hr)).1.symm

/-- A text that ends like an escape, before a closing parenthesis, and a number with a text of the
same digits. -/
theorem quoted_reads_back_text :
    isDouble (.text "7\\\"\x00é%") = false ∧ Ends [')'] ∧
    literal? ((quoted (.text "7\\\"\x00é%")).toList ++ [')']) = some (.text "7\\\"\x00é%", [')']) ∧
    isDouble (.ofInt 7) = false ∧ (quoted (.text "7\\\"\x00é%") = quoted (.ofInt 7) →
      text "7\\\"\x00é%" = .ofInt 7) := by
  have hr : Ends [')'] := by
    rintro c ⟨⟩
    decide
  have h := quoted_reads_back (.text "7\\\"\x00é%") rfl
  exact ⟨rfl, hr, h.1 _ hr, rfl, h.2 (.ofInt 7) rfl⟩

example : literal? "X\"00ab\" AND".toList = some (.bytes [0x00, 0xab], " AND".toList) := by
  decide +kernel

end Literal
end JsonSelect
