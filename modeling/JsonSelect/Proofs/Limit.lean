import JsonSelect.Limit
import JsonSelect.Proofs.Decision
import JsonSelect.Proofs.Text.Integer

/-! Limits whose numbers 64 bits can hold. They are read back from the JSON they are kept in. Which
JSON values are limits. -/
namespace JsonSelect

theorem isWord_of_natAbs_lt {n : Int} (h : n.natAbs < wordEnd) : isWord n = true := by
  simp only [isWord, decide_eq_true_eq]
  omega

theorem Json.isWord_of_integer? {value : Json} {n : Int} (h : value.integer? = some n) :
    isWord n = true := by
  unfold integer? at h
  split at h
  next value =>
    split at h
    next hw =>
      cases h
      exact hw
    next => cases h
  next d =>
    unfold Double.truncate? at h
    split at h
    next hd =>
      cases h
      exact isWord_of_natAbs_lt (by split <;> omega)
    next => cases h
  next => exact isWord_of_natAbs_lt (Text.natAbs_lt_of_leadingInteger? h)
  next => cases h

namespace Limit

/-- Both numbers of the limit are ones of 64 bits that are not negative. -/
structure InRange (limit : Limit) : Prop where
  skip_nonneg : 0 ≤ limit.skip
  skip_lt : limit.skip < wordEnd
  size_nonneg : 0 ≤ limit.size
  size_lt : limit.size < wordEnd

variable {limit : Limit}

theorem readEntry_of_ne_null {value : Json} (h : value ≠ .null) : readEntry (some value) =
    match value.integer? with
    | some n => if 0 ≤ n then .ok (some n) else .error (.limitEntry value)
    | none => .error (.limitEntry value) := by
  cases value with
  | null => exact absurd rfl h
  | bool _ | number _ | string _ | array _ | object _ => rfl

theorem readEntry_ofInt {n : Int} (h : 0 ≤ n) (hl : n < wordEnd) :
    readEntry (some (.ofInt n)) = .ok (some n) := by
  have hw : isWord n = true := by
    simp only [isWord, decide_eq_true_eq]
    omega
  simp [readEntry, Json.ofInt, Json.integer?, hw, h]

/-- A limit that can be held is read back from its JSON array. -/
theorem ofJson_toJson (h : limit.InRange) : ofJson limit.toJson = .ok limit := by
  simp only [toJson, ofJson, ofItems, List.length_cons, List.length_nil, List.getElem?_cons_zero,
    List.getElem?_cons_succ, readEntry_ofInt h.skip_nonneg h.skip_lt,
    readEntry_ofInt h.size_nonneg h.size_lt]
  rfl

theorem ofOption_toJson (h : limit.InRange) : ofOption (some limit.toJson) = .ok (some limit) := by
  have hj := ofJson_toJson h
  simp only [toJson] at hj
  simp only [toJson, ofOption, hj]
  rfl

/-- Null, or a whole number that is not negative. -/
def IsEntry (value : Json) : Prop := value = .null ∨ ∃ n, value.integer? = some n ∧ 0 ≤ n

/-- No limit, or a list of at most two entries. -/
inductive IsDescription : Option Json → Prop where
  | absent : IsDescription none
  | null : IsDescription (some .null)
  | list {items : List Json} (hl : items.length ≤ 2) (h : ∀ item ∈ items, IsEntry item) :
    IsDescription (some (.array items))

theorem decides_readEntry (entry : Option Json) :
    Decides (readEntry entry) (∀ value ∈ entry, IsEntry value) (·.kind = .config) := by
  cases entry with
  | none => exact .ok nofun
  | some value =>
    refine .congr ?_ (show IsEntry value ↔ ∀ v ∈ some value, IsEntry v by simp)
    by_cases hn : value = .null
    · subst hn
      exact .ok (.inl rfl)
    · rw [readEntry_of_ne_null hn]
      refine .congr ?_ (or_iff_right hn).symm
      cases value.integer? with
      | none => exact .fail (by rintro ⟨_, ⟨⟩, _⟩) rfl
      | some n =>
        by_cases h0 : 0 ≤ n
        · simp only [h0, if_true]
          exact .ok ⟨n, rfl, h0⟩
        · simp only [h0, if_false]
          refine .fail ?_ rfl
          rintro ⟨_, ⟨⟩, h⟩
          exact h0 h

/-- Lists with at most two items are looked at whole. -/
theorem forall_mem_iff_of_length_le {α : Type} {p : α → Prop} {items : List α}
    (h : items.length ≤ 2) :
    (∀ item ∈ items, p item) ↔ (∀ item ∈ items[0]?, p item) ∧ ∀ item ∈ items[1]?, p item := by
  match items, h with
  | [], _ => simp
  | [_], _ => simp
  | [_, _], _ => simp

theorem decides_ofItems (items : List Json) : Decides (ofItems items)
    (items.length ≤ 2 ∧ ∀ item ∈ items, IsEntry item) (·.kind = .config) := by
  unfold ofItems
  split
  next hl => exact .fail (fun h => by omega) rfl
  next hl =>
    have hl : items.length ≤ 2 := by omega
    refine .congr ?_ ((and_iff_right hl).trans (forall_mem_iff_of_length_le hl)).symm
    exact (decides_readEntry _).both (decides_readEntry _)

theorem decides_ofOption (value : Option Json) :
    Decides (ofOption value) (IsDescription value) (·.kind = .config) := by
  cases value with
  | none => exact .ok .absent
  | some value =>
    cases value with
    | null => exact .ok .null
    | array items =>
      refine .congr (decides_ofItems items).map ⟨fun ⟨hl, h⟩ => .list hl h, fun h => ?_⟩
      cases h with
      | list hl h => exact ⟨hl, h⟩
    | bool _ | number _ | string _ | object _ => exact .fail nofun rfl

end Limit
end JsonSelect
