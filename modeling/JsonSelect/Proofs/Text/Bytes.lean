/-! Texts as the bytes of their UTF-8 encoding: where they can be cut, and the parts between two
cuts. -/
namespace JsonSelect.Text

/-- What stops a program that works on the bytes of texts and on numbers of 64 bits: a part of a
text that would start or end inside a character, and a number that does not fit. -/
inductive Crash where
  | cut
  | overflow
deriving DecidableEq

variable {text : String} {c : Char} {rest : List Char} {byte : UInt8} {offset : Nat}

def bytes (text : String) : List UInt8 := text.toByteArray.data.toList

/-- Whether a byte goes on with a character. Its first two bits are 10 then. -/
def continues (byte : UInt8) : Bool := 0x80 ≤ byte && byte < 0xC0

/-- A text can be cut at its ends, and before each byte that starts a character. -/
def isBoundary (text : String) (offset : Nat) : Bool :=
  offset = 0 || match (bytes text)[offset]? with
    | none => offset = (bytes text).length
    | some byte => !continues byte

/-- The part of a text between two offsets. -/
def slice (text : String) (start stop : Nat) : Except Crash String :=
  if start ≤ stop ∧ isBoundary text start = true ∧ isBoundary text stop = true then
    match String.fromUTF8? (text.toByteArray.extract start stop) with
    | some part => .ok part
    | none => .error .cut
  else .error .cut

theorem bytes_eq_flatMap (text : String) :
    bytes text = text.toList.flatMap String.utf8EncodeChar := by
  rw [bytes, ← String.utf8Encode_toList, List.utf8Encode, List.data_toByteArray]

theorem length_bytes (text : String) : (bytes text).length = text.utf8ByteSize := rfl

theorem bytes_ofList_cons (c : Char) (rest : List Char) :
    bytes (String.ofList (c :: rest)) = String.utf8EncodeChar c ++ bytes (String.ofList rest) := by
  simp only [bytes_eq_flatMap, String.toList_ofList, List.flatMap_cons]

theorem utf8ByteSize_ofList_cons (c : Char) (rest : List Char) :
    (String.ofList (c :: rest)).utf8ByteSize =
      c.utf8Size + (String.ofList rest).utf8ByteSize := by
  rw [← length_bytes, bytes_ofList_cons, List.length_append, String.length_utf8EncodeChar,
    length_bytes]

theorem continues_iff : continues byte = true ↔ 0x80 ≤ byte.toNat ∧ byte.toNat < 0xC0 := by
  simp [continues, UInt8.le_iff_toNat_le, UInt8.lt_iff_toNat_lt]

/-- A character of ASCII is its own byte. Any other starts with a byte that is neither ASCII nor
goes on with a character, and all its other bytes go on with it. -/
theorem exists_utf8EncodeChar_eq (c : Char) : ∃ first more,
    String.utf8EncodeChar c = first :: more ∧ (∀ byte ∈ more, continues byte = true) ∧
    (first.toNat = c.toNat ∧ c.toNat < 0x80 ∧ more = [] ∨
      0xC0 ≤ first.toNat ∧ 0x80 ≤ c.toNat) := by
  have hc : c.val.toNat = c.toNat := rfl
  unfold String.utf8EncodeChar
  simp only [continues_iff]
  split
  · exact ⟨_, _, rfl, by simp, by simp; omega⟩
  · split
    · exact ⟨_, _, rfl, by simp; omega, by simp; omega⟩
    · split
      · exact ⟨_, _, rfl, by simp; omega, by simp; omega⟩
      · exact ⟨_, _, rfl, by simp; omega, by simp; omega⟩

theorem continues_of_getElem?_utf8EncodeChar (h0 : offset ≠ 0)
    (h : (String.utf8EncodeChar c)[offset]? = some byte) : continues byte = true := by
  obtain ⟨first, more, he, hm, -⟩ := exists_utf8EncodeChar_eq c
  obtain ⟨offset, rfl⟩ := Nat.exists_eq_succ_of_ne_zero h0
  rw [he, List.getElem?_cons_succ] at h
  exact hm byte (List.mem_of_getElem? h)

theorem continues_of_head?_bytes (h : (bytes text).head? = some byte) : continues byte = false := by
  rw [bytes_eq_flatMap] at h
  cases ht : text.toList with
  | nil => simp [ht] at h
  | cons c rest =>
    obtain ⟨first, more, he, -, hf⟩ := exists_utf8EncodeChar_eq c
    rw [ht, List.flatMap_cons, he, List.cons_append, List.head?_cons, Option.some_inj] at h
    rw [← h, ← Bool.not_eq_true, continues_iff]
    omega

theorem isBoundary_zero (text : String) : isBoundary text 0 = true := rfl

theorem isBoundary_inside (h0 : offset ≠ 0) (h : offset < c.utf8Size) :
    isBoundary (String.ofList (c :: rest)) offset = false := by
  rw [← String.length_utf8EncodeChar] at h
  have hb := List.getElem?_eq_getElem h
  have hc := continues_of_getElem?_utf8EncodeChar h0 hb
  simp only [isBoundary, bytes_ofList_cons, List.getElem?_append_left h, hb, hc, h0, decide_false,
    Bool.not_true, Bool.or_false]

theorem isBoundary_beyond (c : Char) (rest : List Char) (offset : Nat) :
    isBoundary (String.ofList (c :: rest)) (c.utf8Size + offset) =
      isBoundary (String.ofList rest) offset := by
  have hp := c.utf8Size_pos
  have h0 : c.utf8Size + offset ≠ 0 := by omega
  have hb : (bytes (String.ofList (c :: rest)))[c.utf8Size + offset]? =
      (bytes (String.ofList rest))[offset]? := by
    rw [bytes_ofList_cons, ← String.length_utf8EncodeChar, List.getElem?_append_right (by omega),
      Nat.add_sub_cancel_left]
  rw [isBoundary, isBoundary, hb, length_bytes, utf8ByteSize_ofList_cons, length_bytes,
    decide_eq_false h0, Bool.false_or]
  by_cases hz : offset = 0
  · -- the start of the rest is looked at here as one of the other offsets
    subst hz
    rw [← List.head?_eq_getElem?]
    split
    next hn => simp [← length_bytes, List.head?_eq_none_iff.mp hn]
    next hh => simp [continues_of_head?_bytes hh]
  · simp [hz]

theorem isBoundary_cons : isBoundary (String.ofList (c :: rest)) offset = true ↔ offset = 0 ∨
    ∃ more, offset = c.utf8Size + more ∧ isBoundary (String.ofList rest) more = true := by
  constructor
  · intro h
    by_cases h0 : offset = 0
    · exact .inl h0
    by_cases hs : offset < c.utf8Size
    · rw [isBoundary_inside h0 hs] at h
      cases h
    · obtain ⟨more, rfl⟩ := Nat.exists_eq_add_of_le (Nat.not_lt.mp hs)
      exact .inr ⟨more, rfl, isBoundary_beyond c rest more ▸ h⟩
  · rintro (rfl | ⟨more, rfl, h⟩)
    · exact isBoundary_zero _
    · rwa [isBoundary_beyond]

theorem exists_append_of_isBoundary (h : isBoundary (String.ofList rest) offset = true) :
    ∃ before after, rest = before ++ after ∧ (String.ofList before).utf8ByteSize = offset := by
  induction rest generalizing offset with
  | nil =>
    have h0 : offset = 0 := by simpa [isBoundary, bytes] using h
    exact ⟨[], [], rfl, h0.symm⟩
  | cons c rest ih =>
    rcases isBoundary_cons.mp h with rfl | ⟨more, rfl, hr⟩
    · exact ⟨[], c :: rest, rfl, rfl⟩
    · obtain ⟨before, after, rfl, rfl⟩ := ih hr
      exact ⟨c :: before, after, rfl, utf8ByteSize_ofList_cons c before⟩

theorem isBoundary_append (before after : List Char) :
    isBoundary (String.ofList (before ++ after)) (String.ofList before).utf8ByteSize = true := by
  induction before with
  | nil => exact isBoundary_zero _
  | cons c before ih =>
    rw [utf8ByteSize_ofList_cons]
    exact (isBoundary_beyond c _ _).trans ih

/-- The offsets that a look at one byte finds are those between two characters. -/
theorem isBoundary_iff : isBoundary text offset = true ↔
    ∃ before after, text = before ++ after ∧ before.utf8ByteSize = offset := by
  constructor
  · intro h
    rw [← String.ofList_toList (s := text)] at h
    obtain ⟨before, after, ht, hb⟩ := exists_append_of_isBoundary h
    refine ⟨String.ofList before, String.ofList after, ?_, hb⟩
    rw [← String.ofList_append, ← ht, String.ofList_toList]
  · rintro ⟨before, after, rfl, rfl⟩
    have h := isBoundary_append before.toList after.toList
    rwa [String.ofList_append, String.ofList_toList, String.ofList_toList] at h

theorem fromUTF8?_toByteArray (text : String) : String.fromUTF8? text.toByteArray = some text := by
  rw [String.fromUTF8?, dif_pos text.isValidUTF8]
  rfl

theorem slice_append (before part after : String) :
    slice (before ++ part ++ after) before.utf8ByteSize
      (before.utf8ByteSize + part.utf8ByteSize) = .ok part := by
  have hb : isBoundary (before ++ part ++ after) before.utf8ByteSize = true :=
    isBoundary_iff.mpr ⟨before, part ++ after, String.append_assoc .., rfl⟩
  have he : isBoundary (before ++ part ++ after) (before.utf8ByteSize + part.utf8ByteSize) = true :=
    isBoundary_iff.mpr ⟨before ++ part, after, rfl, String.utf8ByteSize_append⟩
  have hp : (before ++ part ++ after).toByteArray.extract before.utf8ByteSize
      (before.utf8ByteSize + part.utf8ByteSize) = part.toByteArray := by
    rw [String.append_assoc, String.toByteArray_append, String.toByteArray_append]
    exact (ByteArray.extract_append_size_add' (i := 0) rfl).trans
      (ByteArray.extract_append_eq_left rfl)
  rw [slice, if_pos ⟨Nat.le_add_right _ _, hb, he⟩, hp, fromUTF8?_toByteArray]

/-- There is no part that ends inside a character. -/
example : slice "é" 0 1 = .error .cut := rfl

theorem slice_start (part after : String) :
    slice (part ++ after) 0 part.utf8ByteSize = .ok part := by
  have hs := slice_append "" part after
  rwa [String.empty_append, String.utf8ByteSize_empty, Nat.zero_add] at hs

theorem slice_rest (before part : String) :
    slice (before ++ part) before.utf8ByteSize (before ++ part).utf8ByteSize = .ok part := by
  have hs := slice_append before part ""
  rwa [String.append_empty, ← String.utf8ByteSize_append] at hs

end JsonSelect.Text
