import JsonSelect.Page
import JsonSelect.Proofs.Limit
import Mathlib.Algebra.Order.Ring.Int

/-! Page numbers and page sizes: the numbers that they denote, and the limit of a page. -/
namespace JsonSelect

variable {page size input : PageInput} {p s n : Int} {limit : Limit}

/-- The number that an argument stands for, whether or not 64 bits can hold it. -/
inductive PageInput.Denotes : PageInput → Int → Prop where
  | integer (n : Int) : Denotes (.integer n) n
  | text {text : String} {n : Int} (h : Text.StartsWith text.toList n) : Denotes (.text text) n
  | jsonInteger (n : Int) : Denotes (.json (.number (.integer n))) n
  | jsonDouble {d : Double} (hf : d.isFinite = true) (hw : d.denominator ∣ d.numerator) :
    Denotes (.json (.number (.double d)))
      (if d.isNegative then -(d.wholePart : Int) else d.wholePart)
  | jsonText {text : String} {n : Int} (h : Text.StartsWith text.toList n) :
    Denotes (.json (.string text)) n

/-- Whether the number is one that such an argument can bring. A sign is read apart from its
digits, so the lowest number of 64 bits comes as an integer only. -/
def PageInput.fits (input : PageInput) (n : Int) : Bool :=
  match input with
  | .integer _ | .json (.number (.integer _)) => isWord n
  | _ => n.natAbs < wordEnd

theorem PageInput.value?_of_denotes (h : input.Denotes n) :
    input.value? = if input.fits n then some n else none := by
  cases h with
  | integer | jsonInteger => rfl
  | text h | jsonText h => simp [value?, Json.integer?, Text.leadingInteger?_of_startsWith h, fits]
  | @jsonDouble d hf =>
    have ha :
        (if d.isNegative then -(d.wholePart : Int) else d.wholePart).natAbs = d.wholePart := by
      split <;> omega
    simp [value?, Json.integer?, Double.truncate?, hf, fits, ha]

theorem PageInput.isWord_of_value? (h : input.value? = some n) : isWord n = true := by
  cases input with
  | absent => cases h
  | integer value =>
    simp only [value?] at h
    split at h
    next hw =>
      cases h
      exact hw
    next => cases h
  | text => exact isWord_of_natAbs_lt (Text.natAbs_lt_of_leadingInteger? h)
  | json => exact Json.isWord_of_integer? h

theorem PageInput.isWord_valueOr (input : PageInput) (default : Int)
    (h : isWord default = true) : isWord (input.valueOr default) = true := by
  unfold valueOr
  split
  · exact h
  next n hv =>
    split
    · exact h
    · exact isWord_of_value? hv

theorem PageInput.valueOr_ne_zero (input : PageInput) (default : Int) (h : default ≠ 0) :
    input.valueOr default ≠ 0 := by
  unfold valueOr
  split
  · exact h
  · split
    · exact h
    next hn => exact hn

theorem PageInput.valueOr_of_fits (h : input.Denotes n) (hn : n ≠ 0) (hf : input.fits n = true)
    (default : Int) : input.valueOr default = n := by
  simp [valueOr, value?_of_denotes h, hf, hn]

/-- An argument whose number does not fit counts as a missing one. -/
theorem PageInput.valueOr_of_not_fits (h : input.Denotes n) (hf : input.fits n = false)
    (default : Int) : input.valueOr default = absent.valueOr default := by
  have hv : input.value? = none := by simp [value?_of_denotes h, hf]
  rw [valueOr, hv]
  rfl

namespace Limit

theorem ofNumbers_eq_ok_iff : ofNumbers p s = .ok limit ↔
    0 ≤ p ∧ 0 ≤ s ∧ (p - 1) * s < wordEnd ∧ limit = ⟨(p - 1) * s, s⟩ := by
  constructor
  · intro h
    unfold ofNumbers at h
    split at h
    · cases h
    · split at h
      · cases h
      · split at h
        · cases h
        · cases h
          exact ⟨by omega, by omega, by omega, rfl⟩
  · rintro ⟨hp, hs, hf, rfl⟩
    rw [ofNumbers, if_neg (by omega), if_neg (by omega), if_neg (by omega)]

theorem kind_of_ofNumbers {error : Error} (h : ofNumbers p s = .error error) :
    error.kind = .config := by
  unfold ofNumbers at h
  split at h
  · cases h
    rfl
  · split at h
    · cases h
      rfl
    · split at h <;> cases h
      rfl

/-- Without a limit there is an error, which is one of the configuration. -/
theorem ofNumbers_of_not (h : ∀ limit, ofNumbers p s ≠ .ok limit) :
    ∃ error, ofNumbers p s = .error error ∧ error.kind = .config := by
  cases hr : ofNumbers p s with
  | ok limit => exact absurd hr (h limit)
  | error error => exact ⟨error, rfl, kind_of_ofNumbers hr⟩

theorem inRange_of_ofPage (h : ofPage page size = .ok limit) : limit.InRange := by
  have hp := page.valueOr_ne_zero defaultPage (by decide)
  have hw := size.isWord_valueOr defaultSize (by decide)
  obtain ⟨hp0, hs0, hf, rfl⟩ := ofNumbers_eq_ok_iff.mp h
  simp only [isWord, decide_eq_true_eq] at hw
  exact ⟨mul_nonneg (by omega) hs0, hf, hs0, hw.2⟩

/-- For numbers that fit, the limit of a page is exact or there is an error, and nothing else is
put in their place. A number that does not fit counts as a missing one. -/
theorem ofPage_of_denotes (hp : page.Denotes p) (hs : size.Denotes s) (hp0 : p ≠ 0) (hs0 : s ≠ 0) :
    (page.fits p = true → size.fits s = true →
      (p < 0 ∨ s < 0 → ∃ error, ofPage page size = .error error ∧ error.kind = .config) ∧
      (0 < p → 0 < s → ofPage page size = .ok ⟨(p - 1) * s, s⟩ ∨
        wordEnd ≤ (p - 1) * s ∧ ∃ error, ofPage page size = .error error ∧ error.kind = .config)) ∧
    (page.fits p = false → ofPage page size = ofPage .absent size) ∧
    (size.fits s = false → ofPage page size = ofPage page .absent) := by
  refine ⟨fun hpf hsf => ?_, fun hpf => ?_, fun hsf => ?_⟩
  · have hn : ofPage page size = ofNumbers p s := by
      rw [ofPage, PageInput.valueOr_of_fits hp hp0 hpf, PageInput.valueOr_of_fits hs hs0 hsf]
    rw [hn]
    refine ⟨fun hneg => ofNumbers_of_not fun limit hl => ?_, fun hpos hspos => ?_⟩
    · obtain ⟨h, h', _⟩ := ofNumbers_eq_ok_iff.mp hl
      omega
    · by_cases hf : (p - 1) * s < wordEnd
      · exact .inl (ofNumbers_eq_ok_iff.mpr ⟨by omega, by omega, hf, rfl⟩)
      · refine .inr ⟨by omega, ofNumbers_of_not fun limit hl => ?_⟩
        exact hf (ofNumbers_eq_ok_iff.mp hl).2.2.1
  · rw [ofPage, PageInput.valueOr_of_not_fits hp hpf, ofPage]
  · rw [ofPage, PageInput.valueOr_of_not_fits hs hsf, ofPage]

theorem ofPage_of_denotes_text :
    let page : PageInput := .text "\t+3rd"
    let size : PageInput := .json (.ofInt 25)
    page.Denotes 3 ∧ size.Denotes 25 ∧
    (page.fits 3 = true → size.fits 25 = true →
      ((3 : Int) < 0 ∨ (25 : Int) < 0 →
        ∃ error, ofPage page size = .error error ∧ error.kind = .config) ∧
      ((0 : Int) < 3 → (0 : Int) < 25 → ofPage page size = .ok ⟨(3 - 1) * 25, 25⟩ ∨
        (wordEnd : Int) ≤ (3 - 1) * 25 ∧
          ∃ error, ofPage page size = .error error ∧ error.kind = .config)) ∧
    (page.fits 3 = false → ofPage page size = ofPage .absent size) ∧
    (size.fits 25 = false → ofPage page size = ofPage page .absent) := by
  intro page size
  have hp : page.Denotes 3 :=
    .text (@Text.StartsWith.plus ['\t'] ['3'] ['r', 'd'] (List.forall_mem_singleton.mpr rfl)
      (by decide))
  have hs : size.Denotes 25 := .jsonInteger 25
  exact ⟨hp, hs, ofPage_of_denotes hp hs (by decide) (by decide)⟩

/-- The lowest number of 64 bits is refused as a page when it is an integer, but not when it is a
text: then it is page one. -/
theorem ofPage_lowest_text :
    let lowest : Int := -9223372036854775808
    let page : PageInput := .text "-9223372036854775808"
    page.Denotes lowest ∧ ofPage (.integer lowest) (.integer 10) = .error (.negativePage lowest) ∧
      ofPage page (.integer 10) = .ok ⟨0, 10⟩ := by
  intro lowest page
  have hp : page.Denotes lowest :=
    .text (@Text.StartsWith.minus [] "9223372036854775808".toList [] (List.forall_mem_nil _)
      (by decide))
  exact ⟨hp, rfl, rfl⟩

end Limit
end JsonSelect
