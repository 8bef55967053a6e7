import JsonSelect.Proofs.Where.Induction

/-! Conditions that can be read back: no connective without operands, and no backquote in a name. -/
namespace JsonSelect

mutual

/-- The fields that the entry asks about, in their order. -/
def Entry.names : Entry → List String
  | .nested _ filter => Filter.names filter
  | .each _ filters => Filter.allNames filters
  | .field name _ => [name]

def Filter.names : List Entry → List String
  | [] => []
  | entry :: rest => entry.names ++ Filter.names rest

def Filter.allNames : List (List Entry) → List String
  | [] => []
  | filter :: rest => Filter.names filter ++ Filter.allNames rest

end

/-- Whether names can stand in backquotes as they are. -/
def Unquoted (names : List String) : Prop := ∀ name ∈ names, '`' ∉ name.toList

instance (names : List String) : Decidable (Unquoted names) :=
  inferInstanceAs (Decidable (∀ name ∈ names, '`' ∉ name.toList))

theorem unquoted_append {names more : List String} :
    Unquoted (names ++ more) ↔ Unquoted names ∧ Unquoted more := List.forall_mem_append

/-- The text of the condition that a filter stands for, empty when it stands for none. -/
def Filter.sql (policy : NamePolicy) (connective : Connective) (filter : Filter) :
    Except Error String :=
  Clause.optionText <$> (filter.clause policy connective).result

def Identifier.Proper (column : Identifier) : Prop := column.parts ≠ [] ∧ Unquoted column.parts

/-- Patterns of columns are texts, truth values or numbers. -/
def Pattern.Proper : Pattern → Prop
  | bare value => value.isBare = true
  | contains _ => True

def Atom.Proper : Atom → Prop
  | isNull column | isNotNull column | compare column _ _ | member column _ _ _ => column.Proper
  | like column pattern => column.Proper ∧ pattern.Proper
  | never | always => True

inductive Clause.Proper : Clause → Prop where
  | single {atom : Atom} (h : atom.Proper) : Clause.Proper (.single atom)
  | chain {connective : Connective} {parts : List Clause} (hne : parts ≠ [])
    (h : ∀ part ∈ parts, Clause.Proper part) : Clause.Proper (.chain connective parts)
  | parens {inner : Clause} (h : Clause.Proper inner) : Clause.Proper (.parens inner)

namespace Identifier

theorem segments_ne_nil (text : List Char) : segments text ≠ [] := by
  cases text with
  | nil => simp [segments]
  | cons c rest =>
    simp only [segments]
    split
    · simp
    · split <;> simp

theorem isInner_of_isStart {c : Char} (h : isStart c = true) : isInner c = true := by
  simp only [isStart, Bool.or_eq_true] at h
  rcases h with h | h <;> simp [isInner, Char.isAlphanum, h]

/-- A segment that passes the check is kept as it is and has no character but those of a word. -/
theorem checkSegment_eq_ok {name part : String} {segment : List Char}
    (h : checkSegment name segment = .ok part) :
    part.toList = segment ∧ ∀ c ∈ segment, isInner c = true := by
  cases segment with
  | nil => cases h
  | cons first rest =>
    simp only [checkSegment] at h
    split at h
    next hs =>
      split at h
      next hf =>
        cases h
        have hr : ∀ c ∈ rest, isInner c = true := by simpa using hf
        exact ⟨String.toList_ofList, by simpa using ⟨isInner_of_isStart hs, hr⟩⟩
      next => cases h
    next => cases h

theorem checkSegments_eq_ok {name : String} {segments : List (List Char)} {parts : List String}
    (h : checkSegments name segments = .ok parts) :
    parts.map String.toList = segments ∧ ∀ part ∈ parts, ∀ c ∈ part.toList, isInner c = true := by
  induction segments generalizing parts with
  | nil => cases h; simp
  | cons segment rest ih =>
    simp only [checkSegments, Error.bind_eq_ok] at h
    obtain ⟨part, hp, more, hm, he⟩ := h
    cases he
    obtain ⟨hm, hi⟩ := ih hm
    obtain ⟨hp, hc⟩ := checkSegment_eq_ok hp
    exact ⟨by simp [hp, hm], by simpa [hp] using ⟨hc, hi⟩⟩

/-- The parts of a strict name are its segments, and have no character but those of a word. -/
theorem parts_of_strict {name : String} {column : Identifier}
    (h : ofName .strict name = .ok column) :
    column.parts.map String.toList = segments name.toList ∧
      ∀ part ∈ column.parts, ∀ c ∈ part.toList, isInner c = true := by
  simp only [ofName, ofStrict] at h
  split at h
  · cases h
  · obtain ⟨parts, hp, rfl⟩ := Error.map_eq_ok.mp h
    exact checkSegments_eq_ok hp

theorem proper_of_strict {name : String} {column : Identifier}
    (h : ofName .strict name = .ok column) : column.Proper := by
  obtain ⟨hs, hi⟩ := parts_of_strict h
  refine ⟨fun hn => ?_, fun part hm hq => absurd (hi part hm _ hq) (by decide)⟩
  rw [hn] at hs
  exact segments_ne_nil _ hs.symm

theorem proper_ofName {policy : NamePolicy} {name : String} {column : Identifier}
    (h : ofName policy name = .ok column) (hn : '`' ∉ name.toList) : column.Proper := by
  cases policy with
  | verbatim =>
    cases h
    simpa [Proper, Unquoted] using hn
  | strict => exact proper_of_strict h

end Identifier

theorem Pattern.proper_ofLiteral {operand : Literal} {pattern : Pattern}
    (h : Pattern.ofLiteral operand = .ok pattern) : pattern.Proper := by
  cases operand <;> cases h <;> trivial

theorem Atom.proper_atom? {column : Identifier} {comparison : Comparison} {value : Literal}
    {atom : Atom} (hc : column.Proper) (h : comparison.atom? column value = some atom) :
    atom.Proper := by
  unfold Comparison.atom? at h
  split at h
  · cases comparison <;> cases h <;> exact hc
  · cases h
    exact hc

theorem Atom.proper_ofMember {column : Identifier} (hc : column.Proper) (negated : Bool)
    (values : List Literal) : (Atom.ofMember column negated values).Proper := by
  cases values with
  | nil => cases negated <;> trivial
  | cons => exact hc

theorem Atom.proper_ofValue {column : Identifier} (hc : column.Proper) (value : Literal) :
    (Atom.ofValue column value).Proper := by
  unfold Atom.ofValue
  split <;> exact hc

namespace Clause

variable {connective : Connective} {parts more : List Clause}

theorem proper_join (h : ∀ part ∈ parts, part.Proper) :
    ∀ clause ∈ join connective parts, clause.Proper := by
  intro clause hc
  unfold join at hc
  split at hc
  · cases hc
  next hne =>
    cases hc
    exact .chain (by simpa using hne) h

theorem proper_enclosed (h : ∀ part ∈ parts, part.Proper) :
    ∀ clause ∈ enclosed connective parts, clause.Proper := by
  intro clause hc
  obtain ⟨inner, hi, rfl⟩ := Option.map_eq_some_iff.mp hc
  exact .parens (proper_join h inner hi)

theorem proper_append {part : Option Clause} (hp : ∀ clause ∈ part, clause.Proper)
    (hm : ∀ clause ∈ more, clause.Proper) : ∀ clause ∈ part.toList ++ more, clause.Proper := by
  intro clause hc
  rcases List.mem_append.mp hc with hc | hc
  · exact hp clause (Option.mem_toList.mp hc)
  · exact hm clause hc

end Clause

theorem Filter.properInvariant (policy : NamePolicy) : Filter.Invariant policy
    (fun column _ _ part => column.Proper → ∀ clause ∈ part, clause.Proper)
    (fun column _ _ parts => column.Proper → ∀ clause ∈ parts, clause.Proper)
    (fun column _ part => column.Proper → ∀ clause ∈ part, clause.Proper)
    (fun column _ parts => column.Proper → ∀ clause ∈ parts, clause.Proper)
    (fun entry part => Unquoted entry.names → ∀ clause ∈ part, clause.Proper)
    (fun entries parts => Unquoted (Filter.names entries) → ∀ clause ∈ parts, clause.Proper)
    (fun filters parts => Unquoted (Filter.allNames filters) → ∀ clause ∈ parts, clause.Proper)
    where
  equals column _ value hc := by
    rintro _ ⟨⟩
    exact .single (Atom.proper_ofValue hc value)
  tests _ _ _ _ hp hc := Clause.proper_enclosed (hp hc)
  noRequirements _ _ _ := by simp
  moreRequirements _ _ _ _ _ _ hp hm hc := Clause.proper_append (hp hc) (hm hc)
  compare _ _ _ _ ha hc := by
    rintro _ ⟨⟩
    exact .single (Atom.proper_atom? hc ha)
  unordered _ _ _ _ _ := by simp
  like _ _ _ hp hc := by
    rintro _ ⟨⟩
    exact .single ⟨hc, Pattern.proper_ofLiteral hp⟩
  member column values negated hc := by
    rintro _ ⟨⟩
    exact .single (Atom.proper_ofMember hc negated values)
  group _ _ _ _ hp hc := Clause.proper_join (hp hc)
  noTests _ _ := by simp
  moreTests _ _ _ _ _ hp hm hc := Clause.proper_append (hp hc) (hm hc)
  nested _ _ _ hp hn := Clause.proper_enclosed (hp hn)
  each _ _ _ hp hn := Clause.proper_enclosed (hp hn)
  field name _ _ _ hc hp hn := hp (Identifier.proper_ofName hc (hn name (by simp [Entry.names])))
  noEntries _ := by simp
  moreEntries _ _ _ _ hp hm hn :=
    have hn := unquoted_append.mp hn
    Clause.proper_append (hp hn.1) (hm hn.2)
  noFilters _ := by simp
  moreFilters _ _ _ _ hp hm hn :=
    have hn := unquoted_append.mp hn
    Clause.proper_append (Clause.proper_enclosed (hp hn.1)) (hm hn.2)

/-- What a filter with such names stands for, when it stands for anything. -/
theorem Filter.proper_of_clause {policy : NamePolicy} {connective : Connective} {filter : Filter}
    {part : Option Clause} (h : (filter.clause policy connective).result = .ok part)
    (hn : Unquoted (Filter.names filter)) : ∀ clause ∈ part, clause.Proper := by
  obtain ⟨parts, hp, rfl⟩ := (Filter.properInvariant policy).filter_clause h
  exact Clause.proper_enclosed (hp hn)

section Sql

variable {policy : NamePolicy} {connective : Connective} {filter : Filter} {sql : String}

theorem Clause.enclosed_eq_some {parts : List Clause} {clause : Clause} :
    enclosed connective parts = some clause ↔
      parts ≠ [] ∧ clause = .parens (.chain connective parts) := by
  cases parts <;> simp [enclosed, join, eq_comm]

/-- A text that is not empty is that of a condition in parentheses. -/
theorem Filter.clause_of_sql (h : filter.sql policy connective = .ok sql) (hne : sql ≠ "")
    (hn : Unquoted (Filter.names filter)) :
    ∃ clause, (filter.clause policy connective).result = .ok (some (.parens clause)) ∧
      clause.Proper ∧ sql = (Clause.parens clause).text := by
  obtain ⟨part, hp, rfl⟩ := Error.map_eq_ok.mp h
  cases part with
  | none => exact absurd rfl hne
  | some clause =>
    have hc := Filter.proper_of_clause hp hn clause rfl
    have he := hp
    simp only [Filter.clause, Outcome.result_map, Error.map_eq_ok, Clause.enclosed_eq_some] at he
    obtain ⟨parts, _, _, rfl⟩ := he
    cases hc with
    | parens hc => exact ⟨_, hp, hc, rfl⟩

end Sql

end JsonSelect
