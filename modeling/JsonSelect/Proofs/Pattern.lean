import JsonSelect.Proofs.Pattern.Literal
import Mathlib.Data.List.Infix

/-! The texts that LIKE finds by a pattern. The pattern for a text finds what contains the text, but
not where the text has a backslash: LIKE takes it for an escape. -/
namespace JsonSelect

namespace Sql

/-- What a LIKE pattern asks for, piece by piece: a certain character, any one character, or any run
of characters. -/
inductive PatternPart where
  | char (c : Char)
  | one
  | run
deriving DecidableEq

namespace PatternPart

/-- After a backslash every character stands for itself, and so does a backslash at the end. -/
def ofPattern : List Char → List PatternPart
  | [] => []
  | '%' :: rest => run :: ofPattern rest
  | '_' :: rest => one :: ofPattern rest
  | '\\' :: c :: rest => char c :: ofPattern rest
  | c :: rest => char c :: ofPattern rest

/-- Whether the parts account for the whole text. Characters are compared exactly. -/
def finds : List PatternPart → List Char → Bool
  | [], text => text.isEmpty
  | char c :: parts, text => text.head? = some c && finds parts text.tail
  | one :: parts, text => !text.isEmpty && finds parts text.tail
  | run :: parts, text => text.tails.any (finds parts)

/-- A text that is found, with nothing where any run may stand. -/
def shortest : List PatternPart → List Char
  | [] => []
  | char c :: parts => c :: shortest parts
  | one :: parts => '?' :: shortest parts
  | run :: parts => shortest parts

end PatternPart

/-- Whether LIKE finds the text by the pattern. -/
def isLike (text pattern : String) : Bool :=
  PatternPart.finds (PatternPart.ofPattern pattern.toList) text.toList

end Sql

namespace Sql.PatternPart

variable {parts : List PatternPart} {text inner rest : List Char} {c : Char}

theorem finds_run : finds (run :: parts) text = true ↔ ∃ rest, rest <:+ text ∧ finds parts rest := by
  simp [finds]

theorem finds_chars : finds (inner.map char ++ parts) text = true ↔
    ∃ rest, text = inner ++ rest ∧ finds parts rest := by
  induction inner generalizing text with
  | nil => simp
  | cons c inner ih =>
    cases text with
    | nil => simp [finds]
    | cons d text => simp [finds, ih, and_assoc]

theorem finds_between_runs : finds (run :: (inner.map char ++ [run])) text = true ↔
    inner <:+: text := by
  have hr : ∀ rest, finds [run] rest = true := fun rest =>
    finds_run.mpr ⟨[], List.nil_suffix, rfl⟩
  simp only [finds_run, finds_chars, hr, and_true]
  constructor
  · rintro ⟨_, ⟨start, rfl⟩, rest, rfl⟩
    exact ⟨start, rest, by simp⟩
  · rintro ⟨start, rest, rfl⟩
    exact ⟨inner ++ rest, ⟨start, by simp⟩, rest, rfl⟩

theorem finds_shortest (parts : List PatternPart) : finds parts (shortest parts) = true := by
  induction parts with
  | nil => rfl
  | cons part parts ih =>
    cases part with
    | char c => simpa [finds, shortest] using ih
    | one => simpa [finds, shortest] using ih
    | run => exact finds_run.mpr ⟨_, List.suffix_refl _, ih⟩

theorem ofPattern_cons (hc : c ≠ '%') (ho : c ≠ '_') (hb : c ≠ '\\') :
    ofPattern (c :: rest) = char c :: ofPattern rest := by
  rw [ofPattern] <;> simp [hc, ho, hb]

/-- A guarded character stands for itself. -/
theorem ofPattern_guarded (hb : c ≠ '\\') :
    ofPattern (Pattern.guarded c ++ rest) = char c :: ofPattern rest := by
  unfold Pattern.guarded
  split
  next h => rcases h with rfl | rfl <;> rfl
  next h => exact ofPattern_cons (fun hc => h (.inr hc)) (fun hc => h (.inl hc)) hb

theorem ofPattern_flatMap_guarded (hb : '\\' ∉ inner) :
    ofPattern (inner.flatMap Pattern.guarded ++ rest) = inner.map char ++ ofPattern rest := by
  induction inner with
  | nil => rfl
  | cons c inner ih =>
    have hc : c ≠ '\\' := fun he => hb (by simp [he])
    rw [List.flatMap_cons, List.append_assoc, ofPattern_guarded hc,
      ih fun hm => hb (List.mem_cons_of_mem c hm)]
    rfl

/-- What the guarded text finds with nothing for the run after it. -/
def found (inner : List Char) : List Char :=
  shortest (ofPattern (inner.flatMap Pattern.guarded ++ ['%']))

theorem found_cons (hb : c ≠ '\\') : found (c :: inner) = c :: found inner := by
  rw [found, List.flatMap_cons, List.append_assoc, ofPattern_guarded hb]
  rfl

/-- A backslash takes the character after it, or the guard of that character. -/
theorem found_escape (c : Char) (inner : List Char) : found ('\\' :: c :: inner) =
    if c = '%' then '\\' :: found inner
    else if c = '_' then '\\' :: '?' :: found inner
    else c :: found inner := by
  split
  next h => subst h; rfl
  next hr =>
    split
    next h => subst h; rfl
    next ho =>
      have hg : Pattern.guarded c = [c] := if_neg (by simp [hr, ho])
      simp only [found, List.flatMap_cons, hg]
      rfl

-- By recursion over two characters, for what becomes of the second one depends on the first.
/-- A text with a backslash is not what its own pattern asks for. -/
theorem length_found_le : ∀ inner : List Char,
    (found inner).length ≤ inner.length ∧ ('\\' ∈ inner → found inner ≠ inner)
  | [] => ⟨Nat.le_refl 0, by simp⟩
  | [c] => by
    by_cases hb : c = '\\'
    · subst hb
      exact ⟨Nat.le_refl 1, by decide⟩
    · rw [found_cons hb]
      exact ⟨Nat.le_refl 1, by simp [Ne.symm hb]⟩
  | c :: d :: rest => by
    by_cases hb : c = '\\'
    · subst hb
      obtain ⟨hl, -⟩ := length_found_le rest
      have hlt : ∀ e : Char, (e :: found rest).length < ('\\' :: d :: rest).length := by
        intro e
        simp only [List.length_cons]
        omega
      rw [found_escape]
      split
      · exact ⟨(hlt _).le, fun _ => ne_of_apply_ne List.length (hlt _).ne⟩
      · split
        next ho =>
          subst ho
          exact ⟨by simpa using hl, by simp⟩
        next => exact ⟨(hlt _).le, fun _ => ne_of_apply_ne List.length (hlt _).ne⟩
    · obtain ⟨hl, hn⟩ := length_found_le (d :: rest)
      rw [found_cons hb]
      refine ⟨by simpa using hl, fun hm he => hn ?_ (List.cons.inj he).2⟩
      exact (List.mem_cons.mp hm).resolve_left (Ne.symm hb)

end Sql.PatternPart

namespace Pattern

open Sql

variable {inner text : String}

theorem ofPattern_ofInner (inner : String) : PatternPart.ofPattern (ofInner inner).toList =
    .run :: PatternPart.ofPattern (inner.toList.flatMap guarded ++ ['%']) := by
  rw [ofInner, String.toList_ofList]
  rfl

theorem isLike_ofInner (hb : '\\' ∉ inner.toList) :
    isLike text (ofInner inner) = true ↔ inner.toList <:+: text.toList := by
  rw [isLike, ofPattern_ofInner, PatternPart.ofPattern_flatMap_guarded hb]
  exact PatternPart.finds_between_runs

theorem exists_isLike_of_backslash (hb : '\\' ∈ inner.toList) :
    ∃ text, isLike text (ofInner inner) = true ∧ ¬ inner.toList <:+: text.toList := by
  refine ⟨String.ofList (PatternPart.found inner.toList), ?_, fun hi => ?_⟩
  · rw [isLike, ofPattern_ofInner, String.toList_ofList]
    exact PatternPart.finds_run.mpr ⟨_, List.suffix_refl _, PatternPart.finds_shortest _⟩
  · rw [String.toList_ofList] at hi
    obtain ⟨hl, hn⟩ := PatternPart.length_found_le inner.toList
    exact hn hb (hi.eq_of_length_le hl).symm

/-- The literal of a text's pattern is one string. LIKE finds by it what contains the text, without
the percent signs at its ends, exactly when there is no backslash in the text. -/
theorem isLike_iff_contains (text : String) :
    ∃ pattern remaining content, ofLiteral (.text text) = .ok pattern ∧
      IsInner text.toList remaining ∧ tokens pattern.text = some [.string content] ∧
      ((∀ other : String, isLike other content = true ↔ remaining <:+: other.toList) ↔
        '\\' ∉ remaining) := by
  let remaining := String.ofList (Pattern.inner text.toList)
  have hr : remaining.toList = Pattern.inner text.toList := String.toList_ofList
  have hi : IsInner text.toList remaining.toList := hr ▸ isInner_inner text.toList
  have hs : tokens (contains remaining).text = some [.string (ofInner remaining)] :=
    (@scans_text (contains remaining) trivial).tokens_eq
  refine ⟨contains remaining, remaining.toList, ofInner remaining, rfl, hi, hs,
    fun h hb => ?_, fun hb other => isLike_ofInner hb⟩
  obtain ⟨other, hl, hn⟩ := exists_isLike_of_backslash hb
  exact hn ((h other).mp hl)

/-- The guard of the percent sign is taken away by the backslash before it, and any run of
characters is found in its place. -/
theorem isLike_of_backslash :
    ∃ pattern remaining content, ofLiteral (.text "a\\%b") = .ok pattern ∧
      IsInner "a\\%b".toList remaining ∧ tokens pattern.text = some [.string content] ∧
      isLike "a\\xyzb" content = true ∧ ¬ remaining <:+: "a\\xyzb".toList := by
  refine ⟨_, Pattern.inner "a\\%b".toList, ofInner "a\\%b", rfl, isInner_inner _, ?_, ?_, ?_⟩
  · rfl
  · decide +kernel
  · decide +kernel

end Pattern
end JsonSelect
