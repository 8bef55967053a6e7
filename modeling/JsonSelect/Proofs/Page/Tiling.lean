import JsonSelect.Proofs.Page

/-! Pages of one size, counted from one. Their rows follow each other without gaps and without
overlaps, up to the page before which there are more rows than 64 bits can count. -/
namespace JsonSelect

variable {p q s row : Int} {limit next : Limit}

namespace Limit

/-- Whether the row of that number, counted from zero, is let through. -/
def Covers (limit : Limit) (row : Int) : Prop :=
  limit.skip ≤ row ∧ row < limit.skip + limit.size

instance (limit : Limit) (row : Int) : Decidable (limit.Covers row) :=
  inferInstanceAs (Decidable (_ ∧ _))

/-- Between positive numbers only the product can go wrong. -/
theorem ofPage_integer (hp : 0 < p) (hpw : p < wordEnd) (hs : 0 < s) (hsw : s < wordEnd) :
    ofPage (.integer p) (.integer s) =
      if wordEnd ≤ (p - 1) * s then .error (.farPage p s) else .ok ⟨(p - 1) * s, s⟩ := by
  have hpf : (PageInput.integer p).fits p = true := by
    simp only [PageInput.fits, isWord, decide_eq_true_eq]
    omega
  have hsf : (PageInput.integer s).fits s = true := by
    simp only [PageInput.fits, isWord, decide_eq_true_eq]
    omega
  rw [ofPage, PageInput.valueOr_of_fits (.integer p) (by omega) hpf,
    PageInput.valueOr_of_fits (.integer s) (by omega) hsf, ofNumbers, if_neg (by omega),
    if_neg (by omega)]

theorem ofPage_integer_eq_ok_iff (hp : 0 < p) (hpw : p < wordEnd) (hs : 0 < s)
    (hsw : s < wordEnd) : ofPage (.integer p) (.integer s) = .ok limit ↔
      (p - 1) * s < wordEnd ∧ limit = ⟨(p - 1) * s, s⟩ := by
  rw [ofPage_integer hp hpw hs hsw]
  split
  next h => exact ⟨nofun, fun hl => absurd hl.1 (by omega)⟩
  next h => exact ⟨fun hl => ⟨by omega, (Except.ok.inj hl).symm⟩, fun hl => by rw [hl.2]⟩

theorem ofPage_integer_eq_error_iff (hp : 0 < p) (hpw : p < wordEnd) (hs : 0 < s)
    (hsw : s < wordEnd) : (∃ error, ofPage (.integer p) (.integer s) = .error error) ↔
      wordEnd ≤ (p - 1) * s := by
  rw [ofPage_integer hp hpw hs hsw]
  split
  next h => exact ⟨fun _ => h, fun _ => ⟨_, rfl⟩⟩
  next h => exact ⟨nofun, fun hf => absurd hf h⟩

/-- The rows before a page and those on it are the rows of that many full pages. -/
theorem skipped_add_size (p s : Int) : (p - 1) * s + s = p * s := by
  rw [Int.sub_mul, Int.one_mul, Int.sub_add_cancel]

/-- The page of a row is its number divided by the size, counted from one. -/
theorem covers_page_iff (hs : 0 < s) :
    Covers ⟨(p - 1) * s, s⟩ row ↔ p = row / s + 1 := by
  rw [Covers, skipped_add_size, ← Int.le_ediv_iff_mul_le hs, ← Int.ediv_lt_iff_lt_mul hs]
  omega

/-- As many rows lie before the page of a row as the number of the row or fewer. -/
theorem skipped_le (hs : 0 < s) : (row / s + 1 - 1) * s ≤ row := by
  rw [Int.add_sub_cancel]
  exact Int.ediv_mul_le row (by omega)

/-- The page of a row can be built, since neither its number nor its start is above that of the
row. -/
theorem covered_iff (hs : 0 < s) (hsw : s < wordEnd) (h0 : 0 ≤ row)
    (hrow : row < (wordEnd : Int) - 1) :
    (0 < p ∧ p < wordEnd ∧
      ∃ limit, ofPage (.integer p) (.integer s) = .ok limit ∧ limit.Covers row) ↔
    p = row / s + 1 := by
  constructor
  · rintro ⟨hp, hpw, limit, hl, hc⟩
    obtain ⟨_, rfl⟩ := (ofPage_integer_eq_ok_iff hp hpw hs hsw).mp hl
    exact (covers_page_iff hs).mp hc
  · rintro rfl
    have hq0 : 0 ≤ row / s := Int.ediv_nonneg h0 (by omega)
    have hq : row / s ≤ row := Int.ediv_le_self s h0
    have hskip : (row / s + 1 - 1) * s ≤ row := skipped_le hs
    have hp : 0 < row / s + 1 := by omega
    have hpw : row / s + 1 < wordEnd := by omega
    have hl := (ofPage_integer_eq_ok_iff hp hpw hs hsw).mpr ⟨by omega, rfl⟩
    exact ⟨hp, hpw, _, hl, (covers_page_iff hs).mpr rfl⟩

theorem skip_next (hs : 0 < s) (hsw : s < wordEnd) (hp : 0 < p) (hpw : p + 1 < wordEnd)
    (hl : ofPage (.integer p) (.integer s) = .ok limit)
    (hn : ofPage (.integer (p + 1)) (.integer s) = .ok next) :
    next.skip = limit.skip + limit.size := by
  obtain ⟨_, rfl⟩ := (ofPage_integer_eq_ok_iff hp (by omega) hs hsw).mp hl
  obtain ⟨_, rfl⟩ := (ofPage_integer_eq_ok_iff (by omega) hpw hs hsw).mp hn
  rw [Int.add_sub_cancel, skipped_add_size]

theorem exists_error_of_lt (hs : 0 < s) (hsw : s < wordEnd) (hp : 0 < p) (hpq : p < q)
    (hqw : q < wordEnd) (hf : ∃ error, ofPage (.integer p) (.integer s) = .error error) :
    ∃ error, ofPage (.integer q) (.integer s) = .error error := by
  rw [ofPage_integer_eq_error_iff (by omega) (by omega) hs hsw] at hf ⊢
  have hle : (p - 1) * s ≤ (q - 1) * s := mul_le_mul_of_nonneg_right (by omega) (by omega)
  omega

/-- Each row below the largest number of 64 bits is on one page and no other. A page starts where
the one before it ends. Pages fail from the first one on whose start 64 bits cannot hold. The first
page is one; zero is no page, but another way to ask for the first. -/
theorem pages_tile (hs : 0 < s) (hsw : s < wordEnd) :
    (∀ row : Int, 0 ≤ row → row < (wordEnd : Int) - 1 → ∀ p : Int,
      (0 < p ∧ p < wordEnd ∧
        ∃ limit, ofPage (.integer p) (.integer s) = .ok limit ∧ limit.Covers row) ↔
      p = row / s + 1) ∧
    (∀ (p : Int) limit, 0 < p → p < wordEnd → ofPage (.integer p) (.integer s) = .ok limit →
      0 ≤ limit.skip ∧ limit.size = s) ∧
    (∀ (p : Int) limit next, 0 < p → p + 1 < wordEnd →
      ofPage (.integer p) (.integer s) = .ok limit →
      ofPage (.integer (p + 1)) (.integer s) = .ok next →
      next.skip = limit.skip + limit.size) ∧
    (∀ p : Int, 0 < p → p < wordEnd → ((∃ error, ofPage (.integer p) (.integer s) = .error error) ↔
      wordEnd ≤ (p - 1) * s)) ∧
    ∀ p q : Int, 0 < p → p < q → q < wordEnd →
      (∃ error, ofPage (.integer p) (.integer s) = .error error) →
        ∃ error, ofPage (.integer q) (.integer s) = .error error := by
  refine ⟨fun row h0 hrow p => covered_iff hs hsw h0 hrow, fun p limit hp hpw hl => ?_,
    fun p limit next hp hpw => skip_next hs hsw hp hpw,
    fun p hp hpw => ofPage_integer_eq_error_iff hp hpw hs hsw,
    fun p q hp hpq hqw => exists_error_of_lt hs hsw hp hpq hqw⟩
  obtain ⟨_, rfl⟩ := (ofPage_integer_eq_ok_iff hp hpw hs hsw).mp hl
  exact ⟨mul_nonneg (by omega) (by omega), rfl⟩

/-- Of this size there are two pages. The second one holds the last row that has a number, and every
later page fails. -/
theorem pages_tile_two :
    let size : Int := 0x4000000000000000
    (∃ limit, ofPage (.integer 2) (.integer size) = .ok limit ∧
      limit.Covers 0x7FFFFFFFFFFFFFFE) ∧
    (∃ error, ofPage (.integer 3) (.integer size) = .error error) ∧
    ∀ q : Int, 3 < q → q < wordEnd →
      ∃ error, ofPage (.integer q) (.integer size) = .error error := by
  intro size
  obtain ⟨hrow, -, -, hfail, hlater⟩ := pages_tile (s := size) (by decide) (by decide)
  have hthird := (hfail 3 (by decide) (by decide)).mpr (by decide)
  have hlast := (hrow 0x7FFFFFFFFFFFFFFE (by decide) (by decide) 2).mpr (by decide)
  exact ⟨hlast.2.2, hthird, fun q h3 hq => hlater 3 q (by decide) h3 hq hthird⟩

end Limit
end JsonSelect
