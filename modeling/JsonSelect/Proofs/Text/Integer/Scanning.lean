import JsonSelect.Proofs.Text.Bytes
import JsonSelect.Proofs.Text.Integer
import Mathlib.Data.List.TakeWhile

/-! The whole number that a text starts with, looked for in its bytes. The same number is found, and
it is there exactly if the text starts with blanks, a sign and digits. -/
namespace JsonSelect.Text

variable {rest : List Char} {byte : UInt8} {n : Int} {value : Nat}

def isDigitByte (byte : UInt8) : Bool := 0x30 ≤ byte && byte ≤ 0x39

/-- Whether a minus stands at the start of a text, and the text after its sign. -/
def splitSign (text : String) : Except Crash (Bool × String) :=
  if (bytes text).head? = some 0x2D then
    (slice text 1 text.utf8ByteSize).map fun rest => (true, rest)
  else if (bytes text).head? = some 0x2B then
    (slice text 1 text.utf8ByteSize).map fun rest => (false, rest)
  else .ok (false, text)

/-- The offset of the first byte that is no digit, or of the end. -/
def digitsEnd (text : String) : Nat := (bytes text).findIdx fun byte => !isDigitByte byte

/-- The number of a text of digits, if 64 bits can hold it. -/
def word? (digits : String) : Option Int :=
  let value := Nat.ofDigitChars 10 digits.toList 0
  if value < wordEnd then some value else none

def negate (value : Int) : Except Crash Int :=
  if isWord (-value) = true then .ok (-value) else .error .overflow

/-- The number of the digits at the start of a text, below zero after a minus. -/
def scanDigits (negative : Bool) (text : String) : Except Crash (Option Int) :=
  if digitsEnd text = 0 then .ok none
  else do
    let digits ← slice text 0 (digitsEnd text)
    match word? digits with
    | none => return none
    | some value => if negative then some <$> negate value else return some value

/-- The number that a text starts with, by the bytes of the text. -/
def scanInteger (text : String) : Except Crash (Option Int) := do
  let (negative, digits) ← splitSign (String.ofList (trimStart text.toList))
  scanDigits negative digits

/-- A byte of ASCII at the start of a text is the first character. -/
theorem head?_bytes_eq_some (hb : byte.toNat < 0x80) :
    (bytes (String.ofList rest)).head? = some byte ↔
      rest.head?.map Char.toNat = some byte.toNat := by
  cases rest with
  | nil => simp [bytes_eq_flatMap]
  | cons c rest =>
    obtain ⟨first, more, he, -, hf⟩ := exists_utf8EncodeChar_eq c
    rw [bytes_ofList_cons, he, List.cons_append, List.head?_cons, List.head?_cons, Option.map_some,
      Option.some_inj, Option.some_inj, ← UInt8.toNat_inj]
    omega

theorem slice_tail (c : Char) (rest : List Char) :
    slice (String.ofList (c :: rest)) c.utf8Size (String.ofList (c :: rest)).utf8ByteSize =
      .ok (String.ofList rest) := by
  have ht : String.ofList (c :: rest) = String.singleton c ++ String.ofList rest := by simp
  rw [ht, ← String.utf8ByteSize_singleton]
  exact slice_rest _ _

theorem splitSign_minus (rest : List Char) :
    splitSign (String.ofList ('-' :: rest)) = .ok (true, String.ofList rest) := by
  have hm : (bytes (String.ofList ('-' :: rest))).head? = some 0x2D :=
    (head?_bytes_eq_some (by decide)).mpr rfl
  rw [splitSign, if_pos hm]
  exact congrArg (Except.map _) (slice_tail '-' rest)

theorem splitSign_plus (rest : List Char) :
    splitSign (String.ofList ('+' :: rest)) = .ok (false, String.ofList rest) := by
  have hp : (bytes (String.ofList ('+' :: rest))).head? = some 0x2B :=
    (head?_bytes_eq_some (by decide)).mpr rfl
  rw [splitSign, hp, if_neg (by decide), if_pos rfl]
  exact congrArg (Except.map _) (slice_tail '+' rest)

theorem splitSign_unsigned (hm : rest.head? ≠ some '-') (hp : rest.head? ≠ some '+') :
    splitSign (String.ofList rest) = .ok (false, String.ofList rest) := by
  have hn : ∀ c : Char, rest.head? ≠ some c → rest.head?.map Char.toNat ≠ some c.toNat := by
    intro c hc hd
    obtain ⟨d, hd, he⟩ := Option.map_eq_some_iff.mp hd
    exact hc (Char.toNat_inj.mp he ▸ hd)
  rw [splitSign, if_neg fun h => hn '-' hm ((head?_bytes_eq_some (by decide)).mp h),
    if_neg fun h => hn '+' hp ((head?_bytes_eq_some (by decide)).mp h)]

theorem isDigitByte_iff : isDigitByte byte = true ↔ 48 ≤ byte.toNat ∧ byte.toNat ≤ 57 := by
  simp [isDigitByte, UInt8.le_iff_toNat_le]

theorem digitsEnd_cons (c : Char) (rest : List Char) : digitsEnd (String.ofList (c :: rest)) =
    if c.isDigit then c.utf8Size + digitsEnd (String.ofList rest) else 0 := by
  obtain ⟨first, more, he, -, hf⟩ := exists_utf8EncodeChar_eq c
  have hc : c.isDigit = true ↔ 48 ≤ c.toNat ∧ c.toNat ≤ 57 := Char.isDigit_iff_toNat
  have hd : isDigitByte first = c.isDigit := by
    rw [Bool.eq_iff_iff, isDigitByte_iff, hc]
    omega
  rw [digitsEnd, bytes_ofList_cons, he, List.cons_append, List.findIdx_cons, hd]
  split
  next h =>
    have hm : more = [] := by
      rcases hf with ⟨-, -, hm⟩ | ⟨-, hl⟩
      · exact hm
      · have hb := hc.mp h
        omega
    have hl : c.utf8Size = 1 := by rw [← String.length_utf8EncodeChar, he, hm]; rfl
    rw [hm, hl, h]
    exact Nat.add_comm _ _
  next h => simp [h]

theorem digitsEnd_ofList (rest : List Char) : digitsEnd (String.ofList rest) =
    (String.ofList (rest.takeWhile Char.isDigit)).utf8ByteSize := by
  induction rest with
  | nil => rfl
  | cons c rest ih =>
    rw [digitsEnd_cons, List.takeWhile_cons]
    split
    next => rw [ih, utf8ByteSize_ofList_cons]
    next => rfl

theorem negate_natCast (h : value < wordEnd) : negate value = .ok (-value) := by
  have hw : isWord (-(value : Int)) = true := by
    simp only [isWord, decide_eq_true_eq]
    omega
  exact if_pos hw

theorem scanDigits_ofList (negative : Bool) (rest : List Char) :
    scanDigits negative (String.ofList rest) = .ok ((leadingDigits? rest).map fun value : Nat =>
      if negative then -(value : Int) else value) := by
  have hd : digitsEnd (String.ofList rest) = 0 ↔ rest.takeWhile Char.isDigit = [] := by
    rw [digitsEnd_ofList, String.utf8ByteSize_eq_zero_iff, String.ofList_eq_empty_iff]
  have hs : slice (String.ofList rest) 0 (digitsEnd (String.ofList rest)) =
      .ok (String.ofList (rest.takeWhile Char.isDigit)) := by
    have hr := slice_start (String.ofList (rest.takeWhile Char.isDigit))
      (String.ofList (rest.dropWhile Char.isDigit))
    rwa [← String.ofList_append, List.takeWhile_append_dropWhile, ← digitsEnd_ofList] at hr
  simp only [leadingDigits?]
  by_cases hn : rest.takeWhile Char.isDigit = []
  · rw [scanDigits, if_pos (hd.mpr hn), if_pos (.inl hn)]
    rfl
  · rw [scanDigits, if_neg (mt hd.mp hn), hs]
    by_cases hv : Nat.ofDigitChars 10 (rest.takeWhile Char.isDigit) 0 < wordEnd
    · rw [if_neg (by simp [hn, hv])]
      simp only [bind, Except.bind, word?, String.toList_ofList, if_pos hv, negate_natCast hv]
      cases negative <;> rfl
    · rw [if_pos (.inr (Nat.not_lt.mp hv))]
      simp only [bind, Except.bind, word?, String.toList_ofList, if_neg hv]
      rfl

theorem scanInteger_eq (text : String) :
    scanInteger text = .ok (leadingInteger? text.toList) := by
  rw [scanInteger]
  unfold leadingInteger?
  split
  next rest ht =>
    rw [ht, splitSign_minus]
    refine (scanDigits_ofList true rest).trans ?_
    cases leadingDigits? rest <;> rfl
  next rest ht =>
    rw [ht, splitSign_plus]
    refine (scanDigits_ofList false rest).trans ?_
    cases leadingDigits? rest <;> rfl
  next hm hp =>
    have hn : ∀ c, (∀ rest, trimStart text.toList = c :: rest → False) →
        (trimStart text.toList).head? ≠ some c := by
      intro c hc hh
      obtain ⟨rest, hr⟩ := List.head?_eq_some_iff.mp hh
      exact hc rest hr
    rw [splitSign_unsigned (hn '-' hm) (hn '+' hp)]
    refine (scanDigits_ofList false _).trans ?_
    cases leadingDigits? (trimStart text.toList) <;> rfl

/-- Blanks may have several bytes, and so may the character that ends the number. -/
example : scanInteger "\u2003-12é" = .ok (some (-12)) := rfl

section Grammar

variable {text : List Char}

theorem isRun_takeWhile (h : rest.takeWhile Char.isDigit ≠ []) :
    IsRun (rest.takeWhile Char.isDigit) (rest.dropWhile Char.isDigit) where
  ne_nil := h
  isDigit _ hc := List.mem_takeWhile_imp hc
  ends c hc := by
    have hd := List.head?_dropWhile_not Char.isDigit rest
    rw [Option.mem_def.mp hc] at hd
    simpa using hd

theorem exists_isRun_of_leadingDigits? (h : leadingDigits? rest = some value) :
    ∃ digits more, rest = digits ++ more ∧ IsRun digits more ∧
      Nat.ofDigitChars 10 digits 0 = value := by
  simp only [leadingDigits?] at h
  split at h
  · cases h
  next hn =>
    cases h
    exact ⟨_, _, List.takeWhile_append_dropWhile.symm, isRun_takeWhile fun he => hn (.inl he), rfl⟩

theorem startsWith_of_leadingInteger? (h : leadingInteger? text = some n) : StartsWith text n := by
  have hb : ∀ c ∈ text.takeWhile isBlank, isBlank c = true := fun _ hc =>
    List.mem_takeWhile_imp hc
  have ht : text = text.takeWhile isBlank ++ trimStart text :=
    List.takeWhile_append_dropWhile.symm
  rw [ht]
  unfold leadingInteger? at h
  split at h
  next rest hr =>
    rw [hr]
    cases hv : leadingDigits? rest with
    | none => rw [hv] at h; cases h
    | some value =>
      rw [hv] at h
      cases h
      obtain ⟨digits, more, rfl, hd, rfl⟩ := exists_isRun_of_leadingDigits? hv
      exact .minus hb hd
  next rest hr =>
    rw [hr]
    obtain ⟨value, hv, rfl⟩ := Option.map_eq_some_iff.mp h
    obtain ⟨digits, more, rfl, hd, rfl⟩ := exists_isRun_of_leadingDigits? hv
    exact .plus hb hd
  next =>
    obtain ⟨value, hv, rfl⟩ := Option.map_eq_some_iff.mp h
    obtain ⟨digits, more, hr, hd, rfl⟩ := exists_isRun_of_leadingDigits? hv
    rw [hr]
    exact .unsigned hb hd

theorem leadingInteger?_eq_some_iff :
    leadingInteger? text = some n ↔ StartsWith text n ∧ n.natAbs < wordEnd := by
  constructor
  · intro h
    exact ⟨startsWith_of_leadingInteger? h, natAbs_lt_of_leadingInteger? h⟩
  · rintro ⟨hs, hn⟩
    rw [leadingInteger?_of_startsWith hs, if_pos hn]

end Grammar

/-- A number is read exactly if the text starts with it and 64 bits can hold its digits. In the
bytes of any text the same is found, with no character cut and no number out of range on the way. -/
theorem leadingInteger_reads_grammar (text : String) :
    scanInteger text = .ok (leadingInteger? text.toList) ∧
    ∀ n, leadingInteger? text.toList = some n ↔ StartsWith text.toList n ∧ n.natAbs < wordEnd :=
  ⟨scanInteger_eq text, fun _ => leadingInteger?_eq_some_iff⟩

end JsonSelect.Text
