import JsonSelect.Double.Nearest
import JsonSelect.Proofs.Page
import Mathlib.Data.List.Forall2

/-! Whole numbers that come as numbers or as their decimal text. Both are read alike, the lowest number
of 64 bits apart: its digits are read before its sign, and they are too large by one. -/
namespace JsonSelect

variable {n : Int}

namespace Double

theorem binaryOrder_one {value : Nat} (h : value ≠ 0) : binaryOrder value 1 = value.log2 := by
  have hl : ((1 : Nat).log2 : Int) = 0 := by decide
  have hp : 2 ^ value.log2 ≤ value := Nat.log2_self_le h
  have hn : (-(value.log2 : Int)).toNat = 0 := by omega
  simp only [binaryOrder, hl, Int.sub_zero, twoTo, hn, Int.toNat_natCast, Nat.pow_eq, Nat.pow_zero,
    Nat.mul_one, Nat.one_mul]
  exact if_neg (by omega)

theorem div_le_roundedQuotient (dividend divisor : Nat) :
    dividend / divisor ≤ roundedQuotient dividend divisor := by
  simp only [roundedQuotient]
  split <;> omega

/-- The unit of a number of 64 bits or more is a whole one, and its significand has all its bits. -/
theorem fractionEnd_le_roundedQuotient {value : Nat} (h : 52 ≤ value.log2) (h0 : value ≠ 0) :
    fractionEnd ≤ roundedQuotient value (2 ^ (value.log2 - 52)) := by
  have hp : 0 < 2 ^ (value.log2 - 52) := Nat.two_pow_pos _
  have hs : fractionEnd * 2 ^ (value.log2 - 52) = 2 ^ value.log2 := by
    have hf : fractionEnd = 2 ^ 52 := by decide
    rw [hf, ← Nat.pow_add]
    congr 1
    omega
  have hq : fractionEnd ≤ value / 2 ^ (value.log2 - 52) := by
    rw [Nat.le_div_iff_mul_le hp, hs]
    exact Nat.log2_self_le h0
  exact hq.trans (div_le_roundedQuotient _ _)

/-- The bits of doubles are in the order of their values, and `1086` is the exponent of `wordEnd`. -/
theorem bits_ofNat_of_le {value : Nat} (h : wordEnd ≤ value) : ofNat value = infinite ∨
    1086 * fractionEnd ≤ (ofNat value).bits.toNat ∧
      (ofNat value).bits.toNat < lastExponent * fractionEnd := by
  have hw : wordEnd = 2 ^ 63 := by decide
  have h0 : value ≠ 0 := by omega
  have hk : 63 ≤ value.log2 := (Nat.le_log2 h0).mpr (hw ▸ h)
  have hu : max (binaryOrder value 1 - 52) (-1074) = ((value.log2 - 52 : Nat) : Int) := by
    rw [binaryOrder_one h0]
    omega
  have hn : (-((value.log2 - 52 : Nat) : Int)).toNat = 0 := by omega
  have hr := fractionEnd_le_roundedQuotient (by omega) h0
  simp only [ofNat, nearest, if_neg h0, hu, twoTo, hn, Int.toNat_natCast, Nat.pow_eq, Nat.pow_zero,
    Nat.mul_one, Nat.one_mul, if_neg (Nat.not_lt.mpr hr)]
  split
  next => exact .inl rfl
  next hl =>
    right
    simp only [fractionEnd, lastExponent] at hl hr ⊢
    rw [UInt64.toNat_ofNat', Nat.mod_eq_of_lt (by omega)]
    omega

theorem wordEnd_le_wholePart {d : Double} (h : 1086 * fractionEnd ≤ d.bits.toNat)
    (hl : d.bits.toNat < lastExponent * fractionEnd) : wordEnd ≤ d.wholePart := by
  simp only [fractionEnd, lastExponent] at h hl
  have he : 1086 ≤ d.exponentField ∧ d.exponentField < 2047 := by
    simp only [exponentField, fractionEnd, lastExponent]
    omega
  have hs : fractionEnd ≤ d.significand := by
    rw [significand, if_neg (by omega)]
    omega
  have hd : d.denominator = 1 := by
    have hn : (-d.exponent).toNat = 0 := by
      rw [exponent]
      omega
    simp [denominator, twoTo, hn]
  have hx : 11 ≤ d.exponent.toNat := by
    rw [exponent]
    omega
  rw [wholePart, hd, Nat.div_one, numerator]
  calc wordEnd = fractionEnd * 2 ^ 11 := by decide
    _ ≤ d.significand * 2 ^ d.exponent.toNat :=
      Nat.mul_le_mul hs (Nat.pow_le_pow_right (by decide) hx)

/-- Rounding does not bring a number back into 64 bits. -/
theorem truncate?_ofNat_of_le {value : Nat} (h : wordEnd ≤ value) :
    (ofNat value).truncate? = none := by
  rcases bits_ofNat_of_le h with hi | ⟨hb, hl⟩
  · rw [hi]
    decide +kernel
  · rw [truncate?, if_neg]
    have hw := wordEnd_le_wholePart hb hl
    omega

end Double

namespace Json

/-- The same value, but that a whole number may have become its decimal text, the lowest one of 64
bits apart. -/
inductive Respells : Json → Json → Prop where
  | same (value : Json) : Respells value value
  | text {n : Int} (h : n ≠ -(wordEnd : Int)) : Respells (.ofInt n) (.string (toString n))

variable {value other : Json}

theorem integer?_ofInt (n : Int) : (ofInt n).integer? = if isWord n then some n else none := rfl

theorem integer?_toString (n : Int) :
    (string (toString n)).integer? = if n.natAbs < wordEnd then some n else none :=
  Text.leadingInteger?_of_startsWith (Text.startsWith_toString n)

theorem integer?_toString_eq_iff :
    (string (toString n)).integer? = (ofInt n).integer? ↔ n ≠ -(wordEnd : Int) := by
  rw [integer?_ofInt, integer?_toString]
  have hw : isWord n = true ↔ -(wordEnd : Int) ≤ n ∧ n < wordEnd := by
    simp only [isWord, decide_eq_true_eq]
  constructor
  · rintro h rfl
    rw [if_neg (by omega), if_pos (hw.mpr (by decide))] at h
    cases h
  · intro hn
    by_cases hl : n.natAbs < wordEnd
    · rw [if_pos hl, if_pos (hw.mpr (by omega))]
    · rw [if_neg hl, if_neg fun h => hl (by have := hw.mp h; omega)]

theorem Respells.integer?_eq (h : Respells value other) : value.integer? = other.integer? := by
  cases h with
  | same => rfl
  | text h => exact (integer?_toString_eq_iff.mpr h).symm

end Json

/-- The error without the value that its message shows as it came. -/
def Error.withoutValue : Error → Error
  | limitEntry _ => limitEntry .null
  | badCount _ => badCount .null
  | other => other

/-- The same result, or the same error but for the value that it shows. -/
def SameAnswer {α : Type} (x y : Except Error α) : Prop :=
  x.mapError Error.withoutValue = y.mapError Error.withoutValue

theorem SameAnswer.bind {α β : Type} {x y : Except Error α} {f g : α → Except Error β}
    (h : SameAnswer x y) (hf : ∀ a, SameAnswer (f a) (g a)) : SameAnswer (x >>= f) (y >>= g) :=
  Error.mapError_bind h hf

namespace Limit

variable {value other : Json} {items others : List Json}

theorem sameAnswer_readEntry (h : value.Respells other) :
    SameAnswer (readEntry (some value)) (readEntry (some other)) := by
  cases h with
  | same => rfl
  | @text n h =>
    have hi := Json.integer?_toString_eq_iff.mpr h
    have hn : Json.ofInt n ≠ .null := Json.noConfusion
    have ht : Json.string (toString n) ≠ .null := Json.noConfusion
    rw [readEntry_of_ne_null hn, readEntry_of_ne_null ht, hi]
    split
    · split <;> rfl
    · rfl

theorem sameAnswer_entry (h : List.Forall₂ Json.Respells items others) (i : Nat) :
    SameAnswer (readEntry items[i]?) (readEntry others[i]?) := by
  induction h generalizing i with
  | nil => rfl
  | cons hr _ ih =>
    cases i with
    | zero => exact sameAnswer_readEntry hr
    | succ i => exact ih i

theorem sameAnswer_ofItems (h : List.Forall₂ Json.Respells items others) :
    SameAnswer (ofItems items) (ofItems others) := by
  unfold ofItems
  rw [h.length_eq]
  split
  · rfl
  · refine (sameAnswer_entry h 0).bind fun first => ?_
    exact (sameAnswer_entry h 1).bind fun second => rfl

end Limit

/-- The same fields in the same order, some with whole numbers as text. -/
def Fields.Respells (fields others : Fields) : Prop :=
  List.Forall₂ (fun field other => field.1 = other.1 ∧ field.2.Respells other.2) fields others

theorem Fields.Respells.get? {fields others : Fields} (h : fields.Respells others) (key : String) :
    Option.Rel Json.Respells (fields.get? key) (others.get? key) := by
  induction h with
  | nil => exact .none
  | @cons field other _ _ hr _ ih =>
    obtain ⟨name, value⟩ := field
    obtain ⟨_, _⟩ := other
    obtain ⟨rfl, hv⟩ := hr
    simp only [Fields.get?, List.lookup_cons]
    cases key == name with
    | true => exact .some hv
    | false => exact ih

theorem sameAnswer_countOfRows {rows others : List Fields}
    (h : List.Forall₂ Fields.Respells rows others) :
    SameAnswer (countOfRows rows) (countOfRows others) := by
  cases h with
  | nil => rfl
  | @cons row other _ _ hr _ =>
    have hg := hr.get? countColumn
    simp only [countOfRows]
    generalize row.get? countColumn = value at hg ⊢
    generalize other.get? countColumn = otherValue at hg ⊢
    cases hg with
    | none => rfl
    | @some value other hv =>
      simp only [hv.integer?_eq]
      split <;> rfl

/-- The same page argument, but that a whole number may have become its decimal text. -/
inductive PageInput.Respells : PageInput → PageInput → Prop where
  | same (input : PageInput) : Respells input input
  | text {n : Int} (h : n ≠ -(wordEnd : Int)) : Respells (.integer n) (.text (toString n))
  | json {value other : Json} (h : value.Respells other) : Respells (.json value) (.json other)

theorem PageInput.Respells.valueOr_eq {input other : PageInput} (h : input.Respells other)
    (default : Int) : input.valueOr default = other.valueOr default := by
  have hv : input.value? = other.value? := by
    cases h with
    | same => rfl
    | text h => exact (Json.integer?_toString_eq_iff.mpr h).symm
    | json h => exact h.integer?_eq
  simp only [valueOr, hv]

theorem Limit.ofPage_respelled {page otherPage size otherSize : PageInput}
    (hp : page.Respells otherPage) (hs : size.Respells otherSize) :
    ofPage page size = ofPage otherPage otherSize := by
  rw [ofPage, ofPage, hp.valueOr_eq, hs.valueOr_eq]

/-- A whole number is read if 64 bits can hold it, and not by way of the nearest double if they
cannot. Its decimal text is read alike unless it is the lowest number of 64 bits, and so are counts,
limits and pages that hold one or the other. -/
theorem Json.text_read_as_number (n : Int) (rows otherRows : List Fields)
    (items otherItems : List Json) (page otherPage size otherSize : PageInput) :
    (ofInt n).integer? = (if isWord n then some n else none) ∧
    (wordEnd ≤ n.toNat → (Double.ofNat n.toNat).truncate? = none) ∧
    ((string (toString n)).integer? = (ofInt n).integer? ↔ n ≠ -(wordEnd : Int)) ∧
    (List.Forall₂ Fields.Respells rows otherRows →
      SameAnswer (countOfRows rows) (countOfRows otherRows)) ∧
    (List.Forall₂ Respells items otherItems →
      SameAnswer (Limit.ofItems items) (Limit.ofItems otherItems)) ∧
    (PageInput.Respells page otherPage → PageInput.Respells size otherSize →
      Limit.ofPage page size = Limit.ofPage otherPage otherSize) :=
  ⟨integer?_ofInt n, Double.truncate?_ofNat_of_le, integer?_toString_eq_iff,
    sameAnswer_countOfRows, Limit.sameAnswer_ofItems, Limit.ofPage_respelled⟩

/-- The largest number of 64 bits without a sign, the row of a count, a limit and a page. -/
theorem Json.text_read_as_number_largest :
    let largest : Int := 18446744073709551615
    let rows (value : Json) : List Fields := [[(countColumn, value)]]
    wordEnd ≤ largest.toNat ∧ (Double.ofNat largest.toNat).truncate? = none ∧
    (string "18446744073709551615").integer? = (ofInt largest).integer? ∧
    SameAnswer (countOfRows (rows (ofInt largest)))
      (countOfRows (rows (string "18446744073709551615"))) ∧
    SameAnswer (Limit.ofItems [.null, ofInt (-7)]) (Limit.ofItems [.null, string "-7"]) ∧
    Limit.ofPage (.integer 2) (.json (ofInt 25)) =
      Limit.ofPage (.text "2") (.json (string "25")) := by
  intro largest rows
  have hw : wordEnd ≤ largest.toNat := by decide
  have hn : largest ≠ -(wordEnd : Int) := by decide
  have ht : toString largest = "18446744073709551615" := by decide +kernel
  have hv : Respells (ofInt largest) (string "18446744073709551615") := ht ▸ .text hn
  have hr : Fields.Respells [(countColumn, ofInt largest)]
      [(countColumn, string "18446744073709551615")] := .cons ⟨rfl, hv⟩ .nil
  have h7 : Respells (ofInt (-7)) (string "-7") := .text (by decide)
  have h25 : Respells (ofInt 25) (string "25") := .text (by decide)
  obtain ⟨-, hd, hi, hc, hl, hp⟩ := Json.text_read_as_number largest _ _ _ _ _ _ _ _
  exact ⟨hw, hd hw, ht ▸ hi.mpr hn, hc (.cons hr .nil), hl (.cons (.same _) (.cons h7 .nil)),
    hp (.text (by decide)) (.json h25)⟩

/-- The lowest number of 64 bits is a count when it comes as a number, and none when it comes as its
text. -/
theorem Json.lowest_text_not_read :
    let lowest : Int := -9223372036854775808
    let text : Json := string "-9223372036854775808"
    toString lowest = "-9223372036854775808" ∧ (ofInt lowest).integer? = some lowest ∧
    text.integer? = none ∧ countOfRows [[(countColumn, ofInt lowest)]] = .ok lowest ∧
    countOfRows [[(countColumn, text)]] = .error (.badCount text) := by
  intro lowest text
  exact ⟨rfl, rfl, rfl, rfl, rfl⟩

end JsonSelect
