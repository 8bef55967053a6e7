import JsonSelect.KeyCase
import Mathlib

/-! Single keys of ASCII characters. A key in camel case comes back from snake case. -/
namespace JsonSelect

namespace Text

variable {c : Char} {text : List Char}

def IsAscii (text : List Char) : Prop := ∀ c ∈ text, isAscii c = true

instance (text : List Char) : Decidable (IsAscii text) := List.decidableBAll _ text

theorem isAscii_nil : IsAscii [] := List.forall_mem_nil _

theorem isAscii_cons : IsAscii (c :: text) ↔ isAscii c = true ∧ IsAscii text :=
  List.forall_mem_cons

theorem isAlpha_iff_toNat :
    c.isAlpha = true ↔ 65 ≤ c.toNat ∧ c.toNat ≤ 90 ∨ 97 ≤ c.toNat ∧ c.toNat ≤ 122 := by
  simp [Char.isAlpha, Char.isUpper, Char.isLower, UInt32.le_iff_toNat_le]

theorem isAscii_of_isAlpha (h : c.isAlpha = true) : isAscii c = true := by
  have hc := isAlpha_iff_toNat.mp h
  rw [isAscii, decide_eq_true_eq]
  omega

theorem isAscii_toUpper (h : isAscii c = true) : isAscii c.toUpper = true := by
  by_cases hl : c.isLower = true
  · exact isAscii_of_isAlpha (by simp [Char.isAlpha, hl])
  · rwa [Char.toUpper_eq_of_not_isLower hl]

theorem isAscii_toLower (h : isAscii c = true) : isAscii c.toLower = true := by
  by_cases hu : c.isUpper = true
  · exact isAscii_of_isAlpha (by simp [Char.isAlpha, hu])
  · rwa [Char.toLower_eq_of_not_isUpper hu]

theorem toUpper_toLower_of_isUpper (h : c.isUpper = true) : c.toLower.toUpper = c := by
  rw [Char.toUpper_toLower_eq_toUpper,
    Char.toUpper_eq_of_not_isLower (Char.not_isLower_of_isUpper h)]

end Text

namespace KeyCase

open Text

variable {c : Char} {key rest : List Char} {raised : Bool}

theorem isSeparator_of_isAlpha (h : c.isAlpha = true) : isSeparator c = false := by
  have hc := isAlpha_iff_toNat.mp h
  have hdash : c ≠ '-' := by rintro rfl; cases h
  have hline : c ≠ '_' := by rintro rfl; cases h
  have hblank : isBlank c = false := by
    simp only [isBlank, inRanges, blankRanges, List.any_cons, List.any_nil, Bool.or_eq_false_iff,
      Bool.and_eq_false_iff, decide_eq_false_iff_not, and_true]
    omega
  simp [isSeparator, hdash, hline, hblank]

theorem isSeparator_toUpper (h : isSeparator c = false) : isSeparator c.toUpper = false := by
  by_cases hl : c.isLower = true
  · exact isSeparator_of_isAlpha (by simp [Char.isAlpha, hl])
  · rwa [Char.toUpper_eq_of_not_isLower hl]

theorem isSeparator_toLower (h : isSeparator c = false) : isSeparator c.toLower = false := by
  by_cases hu : c.isUpper = true
  · exact isSeparator_of_isAlpha (by simp [Char.isAlpha, hu])
  · rwa [Char.toLower_eq_of_not_isUpper hu]

/-- Camel case with ASCII characters only: no separators, and no capital at the start. -/
structure IsCamel (key : List Char) : Prop where
  isAscii : IsAscii key
  isSeparator : ∀ c ∈ key, isSeparator c = false
  isUpper : ∀ c ∈ key.head?, c.isUpper = false

theorem joined_separator (h : isSeparator c = true) :
    joined raised (c :: rest) = joined true rest := by
  rw [joined, if_pos h]

theorem joined_cons (hs : isSeparator c = false) (ha : isAscii c = true) :
    joined raised (c :: rest) = (if raised then c.toUpper else c) :: joined false rest := by
  rw [joined, if_neg (by simp [hs])]
  cases raised with
  | false => rfl
  | true => simp [upper_of_isAscii ha]

/-- What is left of a key are its characters that are no separators, some of them raised. -/
theorem mem_joined (h : IsAscii key) (hc : c ∈ joined raised key) :
    isAscii c = true ∧ isSeparator c = false := by
  induction key generalizing raised with
  | nil => cases hc
  | cons first rest ih =>
    obtain ⟨hf, hr⟩ := isAscii_cons.mp h
    cases hs : isSeparator first with
    | true =>
      rw [joined_separator hs] at hc
      exact ih hr hc
    | false =>
      rw [joined_cons hs hf, List.mem_cons] at hc
      rcases hc with rfl | hc
      · cases raised with
        | false => exact ⟨hf, hs⟩
        | true => exact ⟨isAscii_toUpper hf, isSeparator_toUpper hs⟩
      · exact ih hr hc

theorem lowerFirst_cons (h : isAscii c = true) : lowerFirst (c :: rest) = c.toLower :: rest := by
  simp [lowerFirst, lower_of_isAscii h]

theorem isCamel_camelCased (h : IsAscii key) : IsCamel (camelCased key) := by
  have hm : ∀ c ∈ joined false key, isAscii c = true ∧ isSeparator c = false :=
    fun c hc => mem_joined h hc
  rw [camelCased]
  cases hj : joined false key with
  | nil => exact ⟨nofun, nofun, nofun⟩
  | cons first rest =>
    rw [hj, List.forall_mem_cons] at hm
    obtain ⟨⟨ha, hs⟩, hr⟩ := hm
    rw [lowerFirst_cons ha]
    refine ⟨isAscii_cons.mpr ⟨isAscii_toLower ha, fun c hc => (hr c hc).1⟩,
      List.forall_mem_cons.mpr ⟨isSeparator_toLower hs, fun c hc => (hr c hc).2⟩, ?_⟩
    rintro c ⟨⟩
    exact Char.isUpper_toLower_eq_false first

/-- A capital comes back from the underscore before it. -/
theorem joined_separated (ha : IsAscii key) (hs : ∀ c ∈ key, isSeparator c = false) :
    joined false ((separated key).map Char.toLower) = key := by
  induction key with
  | nil => rfl
  | cons c rest ih =>
    obtain ⟨hc, hr⟩ := isAscii_cons.mp ha
    obtain ⟨hcs, hrs⟩ := List.forall_mem_cons.mp hs
    have hl : isSeparator c.toLower = false := isSeparator_toLower hcs
    have hla : isAscii c.toLower = true := isAscii_toLower hc
    cases hu : c.isUpper with
    | true =>
      rw [separated, if_pos hu, List.map_cons, List.map_cons, joined_separator (by decide),
        joined_cons hl hla, if_pos rfl, toUpper_toLower_of_isUpper hu, ih hr hrs]
    | false =>
      rw [separated, if_neg (by simp [hu]), List.map_cons, joined_cons hl hla, if_neg (by simp),
        Char.toLower_eq_of_not_isUpper (by simp [hu]), ih hr hrs]

theorem isAscii_separated (h : IsAscii key) : IsAscii (separated key) := by
  induction key with
  | nil => exact isAscii_nil
  | cons c rest ih =>
    obtain ⟨hc, hr⟩ := isAscii_cons.mp h
    rw [separated]
    split
    · exact isAscii_cons.mpr ⟨by decide, isAscii_cons.mpr ⟨hc, ih hr⟩⟩
    · exact isAscii_cons.mpr ⟨hc, ih hr⟩

theorem snakeCased_cons (h : IsAscii (c :: rest)) :
    snakeCased (c :: rest) = c.toLower :: (separated rest).map Char.toLower := by
  obtain ⟨hc, hr⟩ := isAscii_cons.mp h
  rw [snakeCased, lowerText_of_isAscii (isAscii_cons.mpr ⟨hc, isAscii_separated hr⟩), List.map_cons]

theorem camelCased_snakeCased (h : IsCamel key) : camelCased (snakeCased key) = key := by
  obtain ⟨ha, hs, hu⟩ := h
  cases key with
  | nil => rfl
  | cons c rest =>
    obtain ⟨hc, hr⟩ := isAscii_cons.mp ha
    obtain ⟨hcs, hrs⟩ := List.forall_mem_cons.mp hs
    have hl : c.toLower = c := Char.toLower_eq_of_not_isUpper (by simp [hu c rfl])
    rw [snakeCased_cons ha, camelCased, hl, joined_cons hcs hc, joined_separated hr hrs,
      if_neg (by simp), lowerFirst_cons hc, hl]

end KeyCase
end JsonSelect
