import JsonSelect.Proofs.Decision
import JsonSelect.Identifier

/-! The names that the strict policy takes. -/
namespace JsonSelect.Identifier

variable {name : String} {segment : List Char}

/-- A letter or `_`, and then letters, digits, `_` and `$`. -/
def IsWord (segment : List Char) : Prop :=
  ∃ first rest, segment = first :: rest ∧ isStart first = true ∧ ∀ c ∈ rest, isInner c = true

/-- One or more words with a dot between each two. -/
def IsDotted (name : String) : Prop :=
  ∃ words, words ≠ [] ∧ (∀ word ∈ words, IsWord word) ∧ name.toList = ['.'].intercalate words

theorem dot_notMem_of_isWord (h : IsWord segment) : '.' ∉ segment := by
  obtain ⟨first, rest, rfl, hs, hr⟩ := h
  intro hm
  rcases List.mem_cons.mp hm with rfl | hm
  · exact absurd hs (by decide)
  · exact absurd (hr _ hm) (by decide)

theorem segments_eq_splitOn (text : List Char) : segments text = text.splitOn '.' := by
  induction text with
  | nil => rfl
  | cons c rest ih =>
    rw [segments, ih, List.splitOn_cons_eq_if_modifyHead]
    obtain ⟨segment, more, hs⟩ := List.exists_cons_of_ne_nil (List.splitOn_ne_nil '.' rest)
    rw [hs]
    simp

/-- The segments of dotted names are words, and those of other names are not. -/
theorem isDotted_iff : IsDotted name ↔ ∀ segment ∈ segments name.toList, IsWord segment := by
  rw [segments_eq_splitOn]
  constructor
  · rintro ⟨words, hne, hw, hn⟩
    rwa [hn, List.splitOn_intercalate '.' (fun word hm => dot_notMem_of_isWord (hw word hm)) hne]
  · intro h
    exact ⟨_, List.splitOn_ne_nil _ _, h, (List.intercalate_splitOn '.').symm⟩

theorem isWord_cons {first : Char} {rest : List Char} :
    IsWord (first :: rest) ↔ isStart first = true ∧ ∀ c ∈ rest, isInner c = true := by
  constructor
  · rintro ⟨_, _, he, h⟩
    cases he
    exact h
  · intro h
    exact ⟨first, rest, rfl, h⟩

theorem decides_checkSegment (name : String) (segment : List Char) :
    Decides (checkSegment name segment) (IsWord segment) (·.kind = .validation) := by
  cases segment with
  | nil => exact .fail (by rintro ⟨_, _, he, _⟩; cases he) rfl
  | cons first rest =>
    rw [checkSegment]
    split
    next hs =>
      split
      next hf => exact isWord_cons.mpr ⟨hs, by simpa using hf⟩
      next bad hf =>
        have hb := List.find?_some hf
        refine .fail (fun h => ?_) rfl
        simp [(isWord_cons.mp h).2 bad (List.mem_of_find?_eq_some hf)] at hb
    next hs => exact .fail (fun h => hs (isWord_cons.mp h).1) rfl

theorem decides_checkSegments (name : String) (segments : List (List Char)) :
    Decides (checkSegments name segments) (∀ segment ∈ segments, IsWord segment)
      (·.kind = .validation) := by
  induction segments with
  | nil => exact List.forall_mem_nil _
  | cons segment rest ih =>
    refine .congr ?_ List.forall_mem_cons.symm
    exact (decides_checkSegment name segment).both ih

/-- The empty name has one segment, and that is no word. -/
theorem not_isDotted_empty : ¬ IsDotted "" := by
  rw [isDotted_iff]
  intro h
  obtain ⟨_, _, he, _⟩ := h [] List.mem_cons_self
  cases he

theorem decides_ofName (policy : NamePolicy) (name : String) :
    Decides (ofName policy name) (policy = .strict → IsDotted name) (·.kind = .validation) := by
  cases policy with
  | verbatim => exact .ok nofun
  | strict =>
    refine .congr ?_ ⟨fun h _ => h, fun h => h rfl⟩
    rw [ofName, ofStrict]
    split
    next he => exact .fail (he ▸ not_isDotted_empty) rfl
    next => exact (decides_checkSegments name _).map.congr isDotted_iff.symm

end JsonSelect.Identifier
