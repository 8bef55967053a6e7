import JsonSelect.Text.Blank
import Mathlib.Data.List.DropRight

/-! Texts without the blanks at their ends. -/
namespace JsonSelect.Text

variable {text before after : List Char}

theorem trimEnd_append (text more : List Char) : trimEnd (text ++ more) =
    if trimEnd more = [] then trimEnd text else text ++ trimEnd more := by
  simp only [trimEnd, List.reverse_append, List.dropWhile_append, List.isEmpty_iff,
    List.reverse_eq_nil_iff]
  split <;> simp

theorem trimEnd_eq_nil_iff : trimEnd text = [] ↔ text.all isBlank = true := by
  rw [List.all_eq_true]
  exact List.rdropWhile_eq_nil_iff

/-- More blanks at the ends of a text make no difference. -/
theorem trim_append (hb : ∀ c ∈ before, isBlank c = true) (ha : ∀ c ∈ after, isBlank c = true) :
    trim (before ++ text ++ after) = trim text := by
  have he : trimEnd after = [] := trimEnd_eq_nil_iff.mpr (List.all_eq_true.mpr ha)
  rw [trim, trim, trimStart, List.append_assoc, List.dropWhile_append_of_pos hb,
    List.dropWhile_append]
  split
  next hn =>
    rw [List.dropWhile_eq_nil_iff.mpr ha, trimStart, List.isEmpty_iff.mp hn]
  next => rw [trimEnd_append, if_pos he, trimStart]

/-- A text with no blank at either end is as it is without them. -/
theorem trim_eq_self {c : Char} (hs : ∀ d ∈ (text ++ [c]).head?, isBlank d = false)
    (hc : isBlank c = false) : trim (text ++ [c]) = text ++ [c] := by
  have ht : trimStart (text ++ [c]) = text ++ [c] := by
    rw [trimStart, List.dropWhile_eq_self_iff]
    intro hl
    simpa using hs _ (List.head?_eq_getElem? ▸ List.getElem?_eq_getElem hl)
  rw [trim, ht, trimEnd_append_of_not_isBlank hc]

end JsonSelect.Text
