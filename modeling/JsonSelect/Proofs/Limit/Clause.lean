import JsonSelect.Proofs.Limit

/-! The text of a limit. It is made of the digits of two numbers, and the limit that was read from a
list describes itself. -/
namespace JsonSelect.Limit

variable {limit : Limit} {items : List Json} {value : Json} {first second : Option Int} {n : Int}

/-- No number stands for one row, a number alone is the size, and of two the first is skipped. -/
inductive Describes : List Int → Limit → Prop where
  | none : Describes [] ⟨0, 1⟩
  | size (size : Int) : Describes [size] ⟨0, size⟩
  | both (skip size : Int) : Describes [skip, size] ⟨skip, size⟩

/-- The decimal digits of a number that is not negative. -/
def digits (n : Int) : String := String.ofList (Nat.toDigits 10 n.toNat)

theorem describes_ofEntries (first second : Option Int) :
    Describes (first.toList ++ second.toList) (ofEntries first second) := by
  cases first <;> cases second <;> constructor

theorem inRange_ofEntries (hf : ∀ n ∈ first, 0 ≤ n ∧ n < wordEnd)
    (hs : ∀ n ∈ second, 0 ≤ n ∧ n < wordEnd) : (ofEntries first second).InRange := by
  have h0 : (0 : Int) ≤ 0 ∧ (0 : Int) < wordEnd := by decide
  have h1 : (0 : Int) ≤ 1 ∧ (1 : Int) < wordEnd := by decide
  cases first with
  | none =>
    cases second with
    | none => exact ⟨h0.1, h0.2, h1.1, h1.2⟩
    | some size => exact ⟨h0.1, h0.2, (hs size rfl).1, (hs size rfl).2⟩
  | some number =>
    cases second with
    | none => exact ⟨h0.1, h0.2, (hf number rfl).1, (hf number rfl).2⟩
    | some size =>
      exact ⟨(hf number rfl).1, (hf number rfl).2, (hs size rfl).1, (hs size rfl).2⟩

/-- The number of an entry that is read is the one of its value. -/
theorem readEntry_eq_ok {entry : Option Json} {number : Option Int}
    (h : readEntry entry = .ok number) :
    number = entry.bind Json.integer? ∧ ∀ n ∈ number, 0 ≤ n ∧ n < wordEnd := by
  unfold readEntry at h
  split at h
  · cases h
    exact ⟨rfl, nofun⟩
  · cases h
    exact ⟨rfl, nofun⟩
  next value _ =>
    split at h
    next n hi =>
      split at h
      next h0 =>
        cases h
        have hw := Json.isWord_of_integer? hi
        simp only [isWord, decide_eq_true_eq] at hw
        refine ⟨hi.symm, fun m hm => ?_⟩
        cases hm
        exact ⟨h0, hw.2⟩
      next => cases h
    next => cases h

theorem filterMap_eq_of_length_le {α β : Type} (f : α → Option β) {items : List α}
    (h : items.length ≤ 2) :
    items.filterMap f = (items[0]?.bind f).toList ++ (items[1]?.bind f).toList := by
  match items, h with
  | [], _ => rfl
  | [a], _ => cases ha : f a <;> simp [ha]
  | [a, b], _ => cases ha : f a <;> cases hb : f b <;> simp [ha, hb]

theorem ofItems_eq_ok (h : ofItems items = .ok limit) :
    Describes (items.filterMap Json.integer?) limit ∧ limit.InRange := by
  unfold ofItems at h
  split at h
  · cases h
  next hl =>
    obtain ⟨first, hf, h⟩ := Error.bind_eq_ok.mp h
    obtain ⟨second, hs, h⟩ := Error.bind_eq_ok.mp h
    cases h
    obtain ⟨hf, hfr⟩ := readEntry_eq_ok hf
    obtain ⟨hs, hsr⟩ := readEntry_eq_ok hs
    refine ⟨?_, inRange_ofEntries hfr hsr⟩
    rw [filterMap_eq_of_length_le _ (by omega), ← hf, ← hs]
    exact describes_ofEntries first second

theorem ofJson_eq_ok (h : ofJson value = .ok limit) : ∃ items, value = .array items ∧
    Describes (items.filterMap Json.integer?) limit ∧ limit.InRange := by
  cases value with
  | array items => exact ⟨items, rfl, ofItems_eq_ok h⟩
  | null | bool _ | number _ | string _ | object _ => cases h

theorem toString_eq_digits (h : 0 ≤ n) : toString n = digits n := by
  have ha : n.natAbs = n.toNat := by omega
  rw [← String.toList_inj, Text.toList_toString, if_neg (by omega), ha, digits,
    String.toList_ofList, List.nil_append]

theorem clause_eq_ok {sizeOnly : Bool} {text : String} : clause value sizeOnly = .ok text ↔
    ∃ limit, ofJson value = .ok limit ∧
      (if sizeOnly then limit.sizeText else limit.text) = text := by
  constructor
  · intro h
    obtain ⟨limit, hl, ht⟩ := Error.bind_eq_ok.mp h
    cases ht
    exact ⟨limit, hl, rfl⟩
  · rintro ⟨limit, hl, rfl⟩
    exact Error.bind_eq_ok.mpr ⟨limit, hl, rfl⟩

/-- Nothing of the value is in the text but digits. -/
theorem clause_text (h : limit.InRange) (sizeOnly : Bool) :
    (if sizeOnly then limit.sizeText else limit.text) =
      (if sizeOnly then "" else digits limit.skip ++ ", ") ++ digits limit.size := by
  rw [text, sizeText, toString_eq_digits h.skip_nonneg, toString_eq_digits h.size_nonneg]
  cases sizeOnly with
  | true => exact (String.empty_append).symm
  | false => rfl

theorem not_isEntry_iff :
    ¬ IsEntry value ↔ value ≠ .null ∧ ∀ n, value.integer? = some n → n < 0 := by
  simp only [IsEntry, not_or, not_exists, not_and, Int.not_le, ne_eq]

theorem decides_ofJson (value : Json) : Decides (ofJson value)
    (∃ items, value = .array items ∧ items.length ≤ 2 ∧ ∀ item ∈ items, IsEntry item)
    (·.kind = .config) := by
  cases value with
  | array items =>
    refine .congr (decides_ofItems items) ⟨fun h => ⟨items, rfl, h⟩, ?_⟩
    rintro ⟨_, ⟨⟩, h⟩
    exact h
  | null | bool _ | number _ | string _ | object _ => exact .fail nofun rfl

theorem decides_clause (value : Json) (sizeOnly : Bool) : Decides (clause value sizeOnly)
    (∃ items, value = .array items ∧ items.length ≤ 2 ∧ ∀ item ∈ items, IsEntry item)
    (·.kind = .config) :=
  (decides_ofJson value).bind_ok fun _ => ⟨_, rfl⟩

theorem exists_error_clause_iff {sizeOnly : Bool} :
    (∃ error, clause value sizeOnly = .error error) ↔ (∀ items, value ≠ .array items) ∨
      ∃ items, value = .array items ∧ (2 < items.length ∨
        ∃ item ∈ items, item ≠ .null ∧ ∀ n, item.integer? = some n → n < 0) := by
  rw [(decides_clause value sizeOnly).exists_error_iff]
  constructor
  · intro hn
    by_cases hv : ∃ items, value = .array items
    · obtain ⟨items, rfl⟩ := hv
      refine .inr ⟨items, rfl, ?_⟩
      by_cases hl : 2 < items.length
      · exact .inl hl
      · refine .inr (Classical.byContradiction fun hi => hn ⟨items, rfl, by omega, ?_⟩)
        intro item hm
        exact Classical.byContradiction fun he => hi ⟨item, hm, not_isEntry_iff.mp he⟩
    · exact .inl (not_exists.mp hv)
  · rintro (hv | ⟨items, rfl, hl | ⟨item, hm, hi⟩⟩) ⟨_, he, hle, h⟩
    · exact hv _ he
    · cases he
      omega
    · cases he
      exact not_isEntry_iff.mpr hi (h item hm)

/-- The text of a limit has nothing of the list that it is read from but two numbers in range, and
the limit describes itself. There is none exactly for what is no list, is too long, or has an entry
that is neither null nor a number from zero on. -/
theorem clause_normalises (value : Json) (sizeOnly : Bool) :
    (∀ text, clause value sizeOnly = .ok text → ∃ items limit, value = .array items ∧
      ofJson value = .ok limit ∧ Describes (items.filterMap Json.integer?) limit ∧
      limit.InRange ∧
      text = (if sizeOnly then "" else digits limit.skip ++ ", ") ++ digits limit.size ∧
      ofJson limit.toJson = .ok limit ∧ clause limit.toJson sizeOnly = .ok text) ∧
    ((∃ error, clause value sizeOnly = .error error) ↔ (∀ items, value ≠ .array items) ∨
      ∃ items, value = .array items ∧ (2 < items.length ∨
        ∃ item ∈ items, item ≠ .null ∧ ∀ n, item.integer? = some n → n < 0)) ∧
    ∀ error, clause value sizeOnly = .error error → error.kind = .config := by
  refine ⟨fun text ht => ?_, exists_error_clause_iff, fun error h =>
    (decides_clause value sizeOnly).of_error h⟩
  obtain ⟨limit, hl, ht⟩ := clause_eq_ok.mp ht
  obtain ⟨items, hv, hn, hr⟩ := ofJson_eq_ok hl
  have hj := ofJson_toJson hr
  exact ⟨items, limit, hv, hl, hn, hr, ht ▸ clause_text hr sizeOnly, hj,
    clause_eq_ok.mpr ⟨limit, hj, ht⟩⟩

/-- A null before a text that goes on after its number, and a list with a number below zero. -/
theorem clause_normalises_text :
    let value : Json := .array [.null, .string " +12; DROP TABLE t"]
    let below : Json := .array [.ofInt (-1)]
    clause value false = .ok "0, 12" ∧ (∃ items limit, value = .array items ∧
      ofJson value = .ok limit ∧ Describes (items.filterMap Json.integer?) limit ∧
      limit.InRange ∧ "0, 12" = digits limit.skip ++ ", " ++ digits limit.size ∧
      ofJson limit.toJson = .ok limit ∧ clause limit.toJson false = .ok "0, 12") ∧
    clause below true = .error (.limitEntry (.ofInt (-1))) ∧
    (Error.limitEntry (.ofInt (-1))).kind = .config := by
  intro value below
  have hv : clause value false = .ok "0, 12" := rfl
  have hb : clause below true = .error (.limitEntry (.ofInt (-1))) := rfl
  exact ⟨hv, (clause_normalises value false).1 _ hv, hb, (clause_normalises below true).2.2 _ hb⟩

end JsonSelect.Limit
