import JsonSelect.Proofs.Text.Bytes
import JsonSelect.Settings
import Mathlib.Data.Nat.Find

/-! Statements cut for the log. What is left of a long one is its longest beginning of whole
characters, and the bytes lead to the same beginning as the characters. -/
namespace JsonSelect.Logger

open Text

variable {logger : Logger} {text head : String} {size : Nat}

/-- The last offset up to `size` at which a text can be cut. It is looked for from `size` on, one
byte back at a time, and found at the start of the text at the latest. -/
def cutBefore (text : String) (size : Nat) : Nat :=
  Nat.findGreatest (fun offset => isBoundary text offset = true) size

/-- The whole characters among the first `size` bytes of a text. -/
def headOfBytes (size : Nat) (text : String) : Except Crash String :=
  if text.utf8ByteSize ≤ size then .ok text else slice text 0 (cutBefore text size)

/-- What is reported of a text, by its bytes. -/
def shortenBytes (logger : Logger) (text : String) : Except Crash String :=
  match logger.maxLength with
  | none => .ok text
  | some size =>
    if size < text.utf8ByteSize then (headOfBytes size text).map (· ++ "...") else .ok text

/-- A beginning that ends between two characters, has at most `size` bytes, and is the longest of
that kind. -/
structure IsLongestHead (size : Nat) (text head : String) : Prop where
  starts : ∃ rest, text = head ++ rest
  ends : isBoundary text head.utf8ByteSize = true
  fits : head.utf8ByteSize ≤ size
  longest : ∀ offset ≤ size, isBoundary text offset = true → offset ≤ head.utf8ByteSize

theorem isBoundary_cutBefore (text : String) (size : Nat) :
    isBoundary text (cutBefore text size) = true :=
  Nat.findGreatest_spec (P := fun offset => isBoundary text offset = true) (Nat.zero_le size)
    (isBoundary_zero text)

namespace IsLongestHead

theorem cutBefore_eq (h : IsLongestHead size text head) :
    cutBefore text size = head.utf8ByteSize :=
  Nat.le_antisymm
    (h.longest _ (Nat.findGreatest_le size) (isBoundary_cutBefore text size))
    (Nat.le_findGreatest h.fits h.ends)

theorem slice_eq (h : IsLongestHead size text head) :
    slice text 0 (cutBefore text size) = .ok head := by
  obtain ⟨rest, rfl⟩ := h.starts
  rw [h.cutBefore_eq]
  exact slice_start head rest

theorem eq_self (h : IsLongestHead size text head) (hs : text.utf8ByteSize ≤ size) :
    head = text := by
  have hl := h.longest _ hs (isBoundary_iff.mpr ⟨text, "", String.append_empty.symm, rfl⟩)
  obtain ⟨rest, rfl⟩ := h.starts
  rw [String.utf8ByteSize_append] at hl
  have hr : rest = "" := String.utf8ByteSize_eq_zero_iff.mp (by omega)
  rw [hr, String.append_empty]

/-- The next character has no place any more, and it has at most four bytes. -/
theorem size_le (h : IsLongestHead size text head) (hs : size < text.utf8ByteSize) :
    size ≤ head.utf8ByteSize + 3 := by
  obtain ⟨rest, rfl⟩ := h.starts
  have hf := h.fits
  rw [String.utf8ByteSize_append] at hs
  cases hr : rest.toList with
  | nil =>
    rw [String.toList_eq_nil_iff] at hr
    rw [hr, String.utf8ByteSize_empty] at hs
    omega
  | cons c more =>
    have hc := c.utf8Size_le_four
    have hb : isBoundary (head ++ rest) (head.utf8ByteSize + c.utf8Size) = true := by
      refine isBoundary_iff.mpr ⟨head ++ String.singleton c, String.ofList more, ?_, ?_⟩
      · simp [← String.toList_inj, hr]
      · rw [String.utf8ByteSize_append, String.utf8ByteSize_singleton]
    have hp := c.utf8Size_pos
    by_contra hn
    have hl := h.longest _ (by omega) hb
    omega

end IsLongestHead

theorem exists_headWithin_append (size : Nat) (text : List Char) :
    ∃ rest, text = headWithin size text ++ rest := by
  induction text generalizing size with
  | nil => exact ⟨[], rfl⟩
  | cons c text ih =>
    rw [headWithin]
    split
    next =>
      obtain ⟨rest, hr⟩ := ih (size - c.utf8Size)
      exact ⟨rest, congrArg (c :: ·) hr⟩
    next => exact ⟨c :: text, rfl⟩

theorem headWithin_fits (size : Nat) (text : List Char) :
    (String.ofList (headWithin size text)).utf8ByteSize ≤ size := by
  induction text generalizing size with
  | nil => exact Nat.zero_le size
  | cons c text ih =>
    rw [headWithin]
    split
    next h =>
      have hr := ih (size - c.utf8Size)
      rw [utf8ByteSize_ofList_cons]
      omega
    next => exact Nat.zero_le size

theorem le_headWithin (before after : List Char) (h : (String.ofList before).utf8ByteSize ≤ size) :
    (String.ofList before).utf8ByteSize ≤
      (String.ofList (headWithin size (before ++ after))).utf8ByteSize := by
  induction before generalizing size with
  | nil => exact Nat.zero_le _
  | cons c before ih =>
    rw [utf8ByteSize_ofList_cons] at h
    rw [List.cons_append, headWithin, if_pos (by omega), utf8ByteSize_ofList_cons,
      utf8ByteSize_ofList_cons]
    exact Nat.add_le_add_left (ih (by omega)) _

theorem isLongestHead_headWithin (size : Nat) (text : String) :
    IsLongestHead size text (String.ofList (headWithin size text.toList)) := by
  obtain ⟨rest, hr⟩ := exists_headWithin_append size text.toList
  have ht : text = String.ofList (headWithin size text.toList) ++ String.ofList rest := by
    rw [← String.ofList_append, ← hr, String.ofList_toList]
  refine ⟨⟨_, ht⟩, isBoundary_iff.mpr ⟨_, _, ht, rfl⟩, headWithin_fits size text.toList, ?_⟩
  intro offset ho hb
  obtain ⟨before, after, rfl, rfl⟩ := isBoundary_iff.mp hb
  rw [← String.ofList_toList (s := before)] at ho
  have hl := le_headWithin before.toList after.toList ho
  rwa [String.ofList_toList, ← String.toList_append] at hl

theorem shorten_of_none (hm : logger.maxLength = none) : logger.shorten text = text := by
  rw [shorten, hm]

theorem shorten_of_le (hm : logger.maxLength = some size) (hs : text.utf8ByteSize ≤ size) :
    logger.shorten text = text := by
  rw [shorten, hm]
  exact if_pos hs

theorem shorten_of_lt (hm : logger.maxLength = some size) (hs : size < text.utf8ByteSize) :
    logger.shorten text = String.ofList (headWithin size text.toList) ++ "..." := by
  rw [shorten, hm]
  exact if_neg (Nat.not_le.mpr hs)

theorem headOfBytes_eq (size : Nat) (text : String) :
    headOfBytes size text = .ok (String.ofList (headWithin size text.toList)) := by
  have hh := isLongestHead_headWithin size text
  unfold headOfBytes
  split
  next hs => rw [hh.eq_self hs]
  next => exact hh.slice_eq

theorem shortenBytes_eq (logger : Logger) (text : String) :
    logger.shortenBytes text = .ok (logger.shorten text) := by
  cases hm : logger.maxLength with
  | none => rw [shortenBytes, hm, shorten_of_none hm]
  | some size =>
    by_cases hs : size < text.utf8ByteSize
    · rw [shortenBytes, hm, shorten_of_lt hm hs]
      refine (if_pos hs).trans ?_
      rw [headOfBytes_eq]
      rfl
    · rw [shortenBytes, hm, shorten_of_le hm (Nat.not_lt.mp hs)]
      exact if_neg hs

/-- A text that fits is reported as it is, and of any other its longest beginning. That one is at
most three bytes short of the room for it, and no character is cut where the bytes before the last
boundary are taken. -/
theorem shorten_keeps_longest_head (logger : Logger) (text : String) :
    logger.shortenBytes text = .ok (logger.shorten text) ∧
    (logger.maxLength = none → logger.shorten text = text) ∧
    ∀ size, logger.maxLength = some size →
      (text.utf8ByteSize ≤ size → logger.shorten text = text) ∧
      (size < text.utf8ByteSize → ∃ head, IsLongestHead size text head ∧
        logger.shorten text = head ++ "..." ∧ size ≤ head.utf8ByteSize + 3 ∧
        isBoundary text (cutBefore text size) = true ∧
        slice text 0 (cutBefore text size) = .ok head) := by
  refine ⟨shortenBytes_eq logger text, shorten_of_none, fun size hm =>
    ⟨shorten_of_le hm, fun hs => ?_⟩⟩
  have hh := isLongestHead_headWithin size text
  exact ⟨_, hh, shorten_of_lt hm hs, hh.size_le hs, isBoundary_cutBefore text size, hh.slice_eq⟩

/-- A character of four bytes is left out where only three of them fit, and all of a text where
there is no room at all. -/
theorem shorten_keeps_longest_head_four_bytes :
    let text := "n😀"
    let logger (maxLength : Option Nat) : Logger := { maxLength }
    (logger none).shorten text = text ∧
    text.utf8ByteSize ≤ 5 ∧ (logger (some 5)).shorten text = text ∧
    4 < text.utf8ByteSize ∧ (logger (some 4)).shorten text = "n..." ∧
    (∃ head, IsLongestHead 4 text head ∧ "n..." = head ++ "..." ∧ 4 ≤ head.utf8ByteSize + 3 ∧
      isBoundary text (cutBefore text 4) = true ∧ slice text 0 (cutBefore text 4) = .ok head) ∧
    (logger (some 0)).shortenBytes text = .ok "..." := by
  intro text logger
  have h5 : text.utf8ByteSize ≤ 5 := by decide
  have h4 : 4 < text.utf8ByteSize := by decide
  have hs : (logger (some 4)).shorten text = "n..." := by decide
  have h0 : (logger (some 0)).shorten text = "..." := by decide
  exact ⟨(shorten_keeps_longest_head (logger none) text).2.1 rfl, h5,
    ((shorten_keeps_longest_head (logger (some 5)) text).2.2 5 rfl).1 h5, h4, hs,
    hs ▸ ((shorten_keeps_longest_head (logger (some 4)) text).2.2 4 rfl).2 h4,
    h0 ▸ (shorten_keeps_longest_head (logger (some 0)) text).1⟩

end JsonSelect.Logger
