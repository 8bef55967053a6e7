import JsonSelect.Text.Integer

/-! Texts that start with a whole number, and what is read from them. -/
namespace JsonSelect.Text

/-- All the digits at the start of a text, at least one, and what follows them. -/
structure IsRun (digits rest : List Char) : Prop where
  ne_nil : digits ≠ []
  isDigit : ∀ c ∈ digits, c.isDigit = true
  ends : ∀ c ∈ rest.head?, c.isDigit = false

instance (digits rest : List Char) : Decidable (IsRun digits rest) :=
  decidable_of_iff (digits ≠ [] ∧ digits.all Char.isDigit = true ∧
      rest.head?.all (!·.isDigit) = true) (by
    simp only [List.all_eq_true, Option.all_eq_true, Bool.not_eq_true']
    exact ⟨fun ⟨hne, hd, he⟩ => ⟨hne, hd, he⟩, fun h => ⟨h.ne_nil, h.isDigit, h.ends⟩⟩)

/-- Blanks, at most one sign, and a run of digits. -/
inductive StartsWith : List Char → Int → Prop where
  | unsigned {blanks digits rest : List Char} (hb : ∀ c ∈ blanks, isBlank c = true)
    (hd : IsRun digits rest) :
    StartsWith (blanks ++ (digits ++ rest)) (Nat.ofDigitChars 10 digits 0)
  | plus {blanks digits rest : List Char} (hb : ∀ c ∈ blanks, isBlank c = true)
    (hd : IsRun digits rest) :
    StartsWith (blanks ++ '+' :: (digits ++ rest)) (Nat.ofDigitChars 10 digits 0)
  | minus {blanks digits rest : List Char} (hb : ∀ c ∈ blanks, isBlank c = true)
    (hd : IsRun digits rest) :
    StartsWith (blanks ++ '-' :: (digits ++ rest)) (-(Nat.ofDigitChars 10 digits 0 : Nat))

variable {blanks digits rest text : List Char} {n : Int}

/-- The text of a whole number is its digits, after a sign below zero. -/
theorem toList_toString (n : Int) : (toString n).toList =
    (if n < 0 then ['-'] else []) ++ Nat.toDigits 10 n.natAbs := by
  rw [Int.toString_eq_repr, Int.repr_eq_if]
  by_cases hn : n < 0
  · have ha : (-n).toNat = n.natAbs := by omega
    rw [if_neg (by omega), if_pos hn, String.toList_append, Nat.toList_repr, ha]
    rfl
  · have ha : n.toNat = n.natAbs := by omega
    rw [if_pos (by omega), if_neg hn, Nat.toList_repr, ha]
    rfl

theorem isRun_toDigits (value : Nat) (h : ∀ c ∈ rest.head?, c.isDigit = false) :
    IsRun (Nat.toDigits 10 value) rest :=
  ⟨Nat.toDigits_ne_nil, fun _ hc => Nat.isDigit_of_mem_toDigits (by decide) (by decide) hc, h⟩

theorem startsWith_toString (n : Int) : StartsWith (toString n).toList n := by
  have hb : ∀ c ∈ ([] : List Char), isBlank c = true := nofun
  have hd : IsRun (Nat.toDigits 10 n.natAbs) [] := isRun_toDigits _ nofun
  rw [toList_toString]
  split
  next h =>
    have hs := StartsWith.minus hb hd
    have hn : -(n.natAbs : Int) = n := by omega
    rwa [Nat.ofDigitChars_ten_toDigits, hn, List.append_nil] at hs
  next h =>
    have hs := StartsWith.unsigned hb hd
    have hn : (n.natAbs : Int) = n := by omega
    rwa [Nat.ofDigitChars_ten_toDigits, hn, List.append_nil] at hs

theorem isBlank_of_isDigit {c : Char} (h : c.isDigit = true) : isBlank c = false := by
  have hc : 48 ≤ c.toNat ∧ c.toNat ≤ 57 := Char.isDigit_iff_toNat.mp h
  simp only [isBlank, inRanges, blankRanges, List.any_cons, List.any_nil, Bool.or_eq_false_iff,
    Bool.and_eq_false_iff, decide_eq_false_iff_not, and_true]
  omega

section Run

variable {p : Char → Bool} {run : List Char}

theorem takeWhile_run (h : ∀ c ∈ run, p c = true) (hr : ∀ c ∈ rest.head?, p c = false) :
    (run ++ rest).takeWhile p = run := by
  rw [List.takeWhile_append_of_pos h]
  cases rest with
  | nil => simp
  | cons c rest => simp [hr c rfl]

theorem dropWhile_run (h : ∀ c ∈ run, p c = true) (hr : ∀ c ∈ rest.head?, p c = false) :
    (run ++ rest).dropWhile p = rest := by
  rw [List.dropWhile_append_of_pos h]
  cases rest with
  | nil => rfl
  | cons c rest => simp [hr c rfl]

end Run

theorem trimStart_append (hb : ∀ c ∈ blanks, isBlank c = true)
    (hr : ∀ c ∈ rest.head?, isBlank c = false) : trimStart (blanks ++ rest) = rest :=
  dropWhile_run hb hr

theorem leadingDigits?_of_isRun (h : IsRun digits rest) :
    leadingDigits? (digits ++ rest) = if Nat.ofDigitChars 10 digits 0 < wordEnd then
      some (Nat.ofDigitChars 10 digits 0) else none := by
  have ht : (digits ++ rest).takeWhile Char.isDigit = digits := takeWhile_run h.isDigit h.ends
  simp only [leadingDigits?, ht, h.ne_nil, false_or]
  split <;> split <;> first | rfl | omega

/-- The number that a text starts with is read if its magnitude is below `wordEnd`. -/
theorem leadingInteger?_of_startsWith (h : StartsWith text n) :
    leadingInteger? text = if n.natAbs < wordEnd then some n else none := by
  cases h with
  | @unsigned blanks digits rest hb hd =>
    have hr := leadingDigits?_of_isRun hd
    obtain ⟨c, more, rfl⟩ := List.exists_cons_of_ne_nil hd.ne_nil
    have hc : c.isDigit = true := hd.isDigit c (by simp)
    have hm : c ≠ '-' := by rintro rfl; cases hc
    have hp : c ≠ '+' := by rintro rfl; cases hc
    have ht : trimStart (blanks ++ (c :: more ++ rest)) = c :: (more ++ rest) :=
      trimStart_append hb (by simpa using isBlank_of_isDigit hc)
    simp only [leadingInteger?, ht, Int.natAbs_natCast]
    rw [List.cons_append] at hr
    split
    next he => exact absurd (List.cons.inj he).1 hm
    next he => exact absurd (List.cons.inj he).1 hp
    · rw [hr]
      split <;> rfl
  | @plus blanks digits rest hb hd =>
    have ht : trimStart (blanks ++ '+' :: (digits ++ rest)) = '+' :: (digits ++ rest) :=
      trimStart_append hb (by rintro c ⟨⟩; decide)
    simp only [leadingInteger?, ht, leadingDigits?_of_isRun hd, Int.natAbs_natCast]
    split <;> rfl
  | @minus blanks digits rest hb hd =>
    have ht : trimStart (blanks ++ '-' :: (digits ++ rest)) = '-' :: (digits ++ rest) :=
      trimStart_append hb (by rintro c ⟨⟩; decide)
    simp only [leadingInteger?, ht, leadingDigits?_of_isRun hd, Int.natAbs_neg, Int.natAbs_natCast]
    split <;> rfl

theorem lt_of_leadingDigits? {value : Nat} (h : leadingDigits? text = some value) :
    value < wordEnd := by
  simp only [leadingDigits?] at h
  split at h
  · cases h
  next hn =>
    cases h
    omega

theorem natAbs_lt_of_leadingInteger? (h : leadingInteger? text = some n) : n.natAbs < wordEnd := by
  unfold leadingInteger? at h
  split at h
  · simp only [Option.pure_def, Option.bind_eq_bind, Option.map_eq_some_iff,
      Option.bind_eq_some_iff, Option.some.injEq] at h
    obtain ⟨_, ⟨value, hv, rfl⟩, rfl⟩ := h
    simpa using lt_of_leadingDigits? hv
  · obtain ⟨value, hv, rfl⟩ := Option.map_eq_some_iff.mp h
    exact lt_of_leadingDigits? hv
  · obtain ⟨value, hv, rfl⟩ := Option.map_eq_some_iff.mp h
    exact lt_of_leadingDigits? hv

end JsonSelect.Text
