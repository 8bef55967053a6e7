import JsonSelect.Proofs.KeyCase.Key

/-! Texts that are ASCII in lower case. Of the characters beyond ASCII only the Kelvin sign can be
in them, which turns into a small k. -/
namespace JsonSelect.Text

variable {c : Char} {before text : List Char}

/-- The characters of a run, the Kelvin sign apart, have partners that are characters, and none of
them is ASCII. -/
theorem partners_of_mem_lowerRuns : ∀ run ∈ lowerRuns,
    run.first = 0x212A ∧ run.last = 0x212A ∨
      0x80 ≤ run.first + run.shift ∧ run.last + run.shift < 0xD800 ∨
      0xE000 ≤ run.first + run.shift ∧ run.last + run.shift < 0x110000 := by
  decide +kernel

theorem isAscii_ofNat {code : Nat} (hv : code.isValidChar) :
    isAscii (Char.ofNat code) = decide (code < 0x80) := by
  rw [isAscii, Char.toNat_ofNat, if_pos hv]

theorem isAscii_of_partner (h : isAscii (partner lowerRuns c) = true) :
    isAscii c = true ∨ c = '\u212A' := by
  unfold partner at h
  split at h
  next code hf =>
    obtain ⟨run, hr, hp⟩ := List.exists_of_findSome?_eq_some hf
    rw [CaseRun.partner?] at hp
    split at hp
    next hin =>
      cases hp
      obtain ⟨hfirst, hlast, -⟩ := hin
      rcases partners_of_mem_lowerRuns run hr with ⟨hf, hl⟩ | hb
      · refine .inr (Char.toNat_inj.mp ?_)
        change c.toNat = 0x212A
        omega
      · have hv : ((c.toNat : Int) + run.shift).toNat.isValidChar := by
          rw [Nat.isValidChar]
          omega
        rw [isAscii_ofNat hv, decide_eq_true_eq] at h
        omega
    next => cases hp
  next => exact .inl h

theorem isAscii_of_lower (h : ∀ d ∈ lower c, isAscii d = true ∧ d ≠ 'k') : isAscii c = true := by
  by_contra hc
  rw [lower, if_neg hc] at h
  split at h
  · exact absurd (h '\u0307' (by decide)).1 (by decide)
  · obtain ⟨ha, hk⟩ := h _ List.mem_cons_self
    rcases isAscii_of_partner ha with ha | rfl
    · exact hc ha
    · exact hk (by decide +kernel)

theorem isAscii_of_lowerAfter (h : ∀ d ∈ lowerAfter before text, isAscii d = true ∧ d ≠ 'k') :
    IsAscii text := by
  induction text generalizing before with
  | nil => exact isAscii_nil
  | cons c rest ih =>
    rw [lowerAfter, List.forall_mem_append] at h
    refine isAscii_cons.mpr ⟨?_, ih h.2⟩
    by_cases hs : c = 'Σ'
    · -- neither small sigma is ASCII
      rw [if_pos hs] at h
      have hd := (h.1 _ List.mem_cons_self).1
      split at hd <;> exact absurd hd (by decide)
    · rw [if_neg hs] at h
      exact isAscii_of_lower h.1

theorem lowerText_eq_of_isAscii (h : ∀ d ∈ lowerText text, isAscii d = true ∧ d ≠ 'k') :
    lowerText text = text.map Char.toLower :=
  lowerText_of_isAscii (isAscii_of_lowerAfter h)

end JsonSelect.Text
