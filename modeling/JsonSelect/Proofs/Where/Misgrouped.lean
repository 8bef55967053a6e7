import JsonSelect.Proofs.Where.Meaning

/-! The filters whose conditions are read as they are meant, and those that are not. -/
namespace JsonSelect

open Sql
open Expression hiding atom node

def Comparison.isOrdering : Comparison → Bool
  | eq | neq => false
  | lt | gt | lte | gte => true

theorem Comparison.atom?_eq_none {column : Identifier} {comparison : Comparison} {value : Literal} :
    comparison.atom? column value = none ↔ (value.isNull && comparison.isOrdering) = true := by
  unfold atom?
  split
  next hn => cases comparison <;> simp [hn, isOrdering]
  next hn => simp [hn]

mutual

/-- How many fragments the requirement adds to the condition, at most one. -/
def Requirement.fragments : Requirement → Nat
  | .equals _ => 1
  | .tests tests => if Test.allFragments tests = 0 then 0 else 1

def Requirement.allFragments : List Requirement → Nat
  | [] => 0
  | item :: rest => item.fragments + Requirement.allFragments rest

def Test.fragments : Test → Nat
  | .compare comparison value => if value.isNull && comparison.isOrdering then 0 else 1
  | .like _ => 1
  | .member _ _ => 1
  | .group _ items => if Requirement.allFragments items = 0 then 0 else 1

def Test.allFragments : List Test → Nat
  | [] => 0
  | test :: rest => test.fragments + Test.allFragments rest

end

/-- An OR of two fragments or more. -/
def Test.isAlternative : Test → Bool
  | .group connective items => connective = .or && 2 ≤ Requirement.allFragments items
  | _ => false

mutual

/-- Some tests that AND joins are an alternative and another fragment. -/
def Requirement.misgrouped (joiner : Connective) : Requirement → Bool
  | .equals _ => false
  | .tests tests =>
    (joiner = .and && 2 ≤ Test.allFragments tests && tests.any Test.isAlternative) ||
      Test.someMisgrouped tests

def Requirement.someMisgrouped (joiner : Connective) : List Requirement → Bool
  | [] => false
  | item :: rest => item.misgrouped joiner || Requirement.someMisgrouped joiner rest

def Test.misgrouped : Test → Bool
  | .group connective items => Requirement.someMisgrouped connective items
  | _ => false

def Test.someMisgrouped : List Test → Bool
  | [] => false
  | test :: rest => test.misgrouped || Test.someMisgrouped rest

end

mutual

def Entry.misgrouped : Entry → Bool
  | .nested _ filter => Filter.misgrouped filter
  | .each _ filters => Filter.someMisgrouped filters
  | .field _ requirement => requirement.misgrouped .and

/-- Somewhere in the filter an operator list joined by AND has an OR group of two fragments or more
beside another fragment. -/
def Filter.misgrouped : List Entry → Bool
  | [] => false
  | entry :: rest => entry.misgrouped || Filter.misgrouped rest

def Filter.someMisgrouped : List (List Entry) → Bool
  | [] => false
  | filter :: rest => Filter.misgrouped filter || Filter.someMisgrouped rest

end

/-- What matters of conditions for the place where they stand: their number, whether one shows an
OR, and whether one is misgrouped. -/
structure Groups (parts : List Clause) (count : Nat) (alternative misgrouped : Bool) : Prop where
  count : parts.length = count
  alternative : (∃ part ∈ parts, part.line.closed ≠ []) ↔ alternative = true
  misgrouped : (∃ part ∈ parts, part.Misgrouped) ↔ misgrouped = true

namespace Groups

variable {connective : Connective} {parts more : List Clause} {atom : Atom} {n m : Nat}
  {a b u v : Bool}

theorem nil : Groups [] 0 false false := ⟨rfl, by simp, by simp⟩

theorem single : Groups [.single atom] 1 false false :=
  ⟨rfl, by simp [Clause.line, Line.operand], by simp [Clause.Misgrouped]⟩

theorem append (h : Groups parts n a u) (hm : Groups more m b v) :
    Groups (parts ++ more) (n + m) (a || b) (u || v) := by
  refine ⟨by simp [h.count, hm.count], ?_, ?_⟩
  · rw [Bool.or_eq_true, ← h.alternative, ← hm.alternative]
    simp [or_and_right, exists_or]
  · rw [Bool.or_eq_true, ← h.misgrouped, ← hm.misgrouped]
    simp [or_and_right, exists_or]

theorem count_join (h : Groups parts n a u) :
    (Clause.join connective parts).toList.length = if n = 0 then 0 else 1 := by
  cases parts with
  | nil => simp [Clause.join, ← h.count]
  | cons part parts => simp [Clause.join, ← h.count]

theorem enclosed (h : Groups parts n a u) :
    Groups (Clause.enclosed connective parts).toList (if n = 0 then 0 else 1) false
      ((connective = .and && 2 ≤ n && a) || u) := by
  have hu := Clause.someMisgrouped_iff.trans h.misgrouped
  refine ⟨?_, ?_, ?_⟩
  · rw [← @h.count_join connective]
    cases parts <;> rfl
  · cases parts <;> simp [Clause.enclosed, Clause.join, Clause.line, Line.operand]
  · cases parts with
    | nil =>
      have hn : n = 0 := h.count.symm
      simpa [Clause.enclosed, Clause.join, hn, Clause.SomeMisgrouped] using hu
    | cons part parts =>
      have hs : (Clause.enclosed connective (part :: parts)).toList =
          [.parens (.chain connective (part :: parts))] := rfl
      rw [hs, ← h.count]
      simp only [List.mem_singleton, exists_eq_left, Clause.Misgrouped, h.alternative, hu,
        Bool.or_eq_true, Bool.and_eq_true, decide_eq_true_eq, and_assoc]

/-- Where its parts show no OR, a chain shows one if OR joins at least two parts. -/
theorem join (h : Groups parts n false u) :
    Groups (Clause.join connective parts).toList (if n = 0 then 0 else 1)
      (connective = .or && 2 ≤ n) u := by
  have hu := Clause.someMisgrouped_iff.trans h.misgrouped
  have hc : ∀ line ∈ parts.map Clause.line, line.closed = [] := by
    intro line hl
    obtain ⟨part, hp, rfl⟩ := List.mem_map.mp hl
    by_contra hn
    exact absurd (h.alternative.mp ⟨part, hp, hn⟩) (by simp)
  refine ⟨h.count_join, ?_, ?_⟩
  · cases parts with
    | nil =>
      have hn : n = 0 := h.count.symm
      simp [Clause.join, hn]
    | cons part parts =>
      have hs : (Clause.join connective (part :: parts)).toList =
          [.chain connective (part :: parts)] := rfl
      rw [hs, ← h.count]
      simp only [List.mem_singleton, exists_eq_left, Clause.line, Clause.lines_eq_map,
        Bool.and_eq_true, decide_eq_true_eq]
      cases connective with
      | and =>
        have hj := (Line.closed_join_and hc).1
        exact ⟨fun hn => absurd hj hn, fun ho => by cases ho.1⟩
      | or =>
        rw [Line.closed_join_or_ne_nil hc]
        simp
  · cases parts with
    | nil => simpa [Clause.join, Clause.SomeMisgrouped] using hu
    | cons part parts =>
      have hs : (Clause.join connective (part :: parts)).toList =
          [.chain connective (part :: parts)] := rfl
      have hn : ¬ ∃ other ∈ part :: parts, other.line.closed ≠ [] :=
        fun he => absurd (h.alternative.mp he) (by simp)
      rw [hs]
      simp only [List.mem_singleton, exists_eq_left, Clause.Misgrouped, hu, hn, and_false,
        false_or]

end Groups

theorem Filter.groupsInvariant (policy : NamePolicy) : Filter.Invariant policy
    (fun _ joiner requirement part =>
      Groups part.toList requirement.fragments false (requirement.misgrouped joiner))
    (fun _ joiner items parts =>
      Groups parts (Requirement.allFragments items) false (Requirement.someMisgrouped joiner items))
    (fun _ test part => Groups part.toList test.fragments test.isAlternative test.misgrouped)
    (fun _ tests parts => Groups parts (Test.allFragments tests) (tests.any Test.isAlternative)
      (Test.someMisgrouped tests))
    (fun entry part => ∃ n, Groups part.toList n false entry.misgrouped)
    (fun entries parts => ∃ n, Groups parts n false (Filter.misgrouped entries))
    (fun filters parts => ∃ n, Groups parts n false (Filter.someMisgrouped filters)) where
  equals _ _ _ := .single
  tests _ _ _ _ hp := hp.enclosed
  noRequirements _ _ := .nil
  moreRequirements _ _ _ _ _ _ hp hm := hp.append hm
  compare column comparison value atom ha := by
    have hn : ¬ (value.isNull && comparison.isOrdering) = true := by
      rw [← @Comparison.atom?_eq_none column, ha]
      simp
    rw [Test.fragments, if_neg hn]
    exact .single
  unordered column comparison value ha := by
    rw [Test.fragments, if_pos (Comparison.atom?_eq_none.mp ha)]
    exact .nil
  like column operand pattern hp := .single
  member _ _ _ := .single
  group _ _ _ _ hp := hp.join
  noTests _ := .nil
  moreTests _ _ _ _ _ hp hm := hp.append hm
  nested _ _ _ hp := by
    obtain ⟨n, hg⟩ := hp
    exact ⟨_, by simpa [Entry.misgrouped] using hg.enclosed⟩
  each _ _ _ hp := by
    obtain ⟨n, hg⟩ := hp
    exact ⟨_, by simpa [Entry.misgrouped] using hg.enclosed⟩
  field name requirement column part hc hp := ⟨_, hp⟩
  noEntries := ⟨0, .nil⟩
  moreEntries _ _ _ _ hp hm := by
    obtain ⟨n, hp⟩ := hp
    obtain ⟨m, hm⟩ := hm
    exact ⟨_, hp.append hm⟩
  noFilters := ⟨0, .nil⟩
  moreFilters _ _ _ _ hp hm := by
    obtain ⟨n, hp⟩ := hp
    obtain ⟨m, hm⟩ := hm
    exact ⟨_, by simpa [Filter.someMisgrouped] using hp.enclosed.append hm⟩

section Reading

variable {policy : NamePolicy} {connective : Connective} {filter : Filter} {sql : String}

theorem Filter.misgrouped_iff {clause : Clause}
    (h : (filter.clause policy connective).result = .ok (some clause)) :
    clause.Misgrouped ↔ Filter.misgrouped filter = true := by
  obtain ⟨parts, ⟨n, hg⟩, hc⟩ := (Filter.groupsInvariant policy).filter_clause h
  have hm := (@Groups.enclosed connective _ _ _ _ hg).misgrouped
  rw [← hc] at hm
  simpa using hm

/-- What is read from the text of a filter has its atoms in their order. It is grouped as the filter
is, unless the filter is misgrouped, and then some values tell the two apart. -/
theorem Filter.reads_of_sql (h : filter.sql policy connective = .ok sql) (hne : sql ≠ "")
    (hn : Unquoted (Filter.names filter)) :
    ∃ e, expression? sql = some e ∧ e.leaves = (filter.meaning policy connective).leaves ∧
      (Filter.misgrouped filter = false → e.normal = (filter.meaning policy connective).normal) ∧
      (Filter.misgrouped filter = true → ∃ values, e.value values = some .yes ∧
        (filter.meaning policy connective).value values = some .no) := by
  obtain ⟨clause, hr, hp, rfl⟩ := Filter.clause_of_sql h hne hn
  have hk := Filter.normal_meaning hr
  have hm := Filter.misgrouped_iff hr
  refine ⟨(Clause.parens clause).line.expression, ?_, ?_, fun hf => ?_, fun ht => ?_⟩
  · exact Clause.expression?_text (.parens hp)
  · rw [Clause.leaves_line]
    exact leaves_eq_of_normal_eq hk
  · rw [← hk]
    exact Clause.normal_line _ fun hc => absurd (hm.mp hc) (by simp [hf])
  · obtain ⟨values, hy, hv⟩ := Clause.differs_of_misgrouped (.parens hp) (hm.mpr ht)
    exact ⟨values, hy, by rw [← value_eq_of_normal_eq hk, hv]⟩

/-- The text of a filter is read with the grouping of the filter exactly when no operator list
joined by AND has an OR group of two fragments or more beside another fragment. -/
theorem Filter.normal_eq_iff (h : filter.sql policy connective = .ok sql) (hne : sql ≠ "")
    (hn : Unquoted (Filter.names filter)) :
    ∃ e, expression? sql = some e ∧
      (e.normal = (filter.meaning policy connective).normal ↔
        Filter.misgrouped filter = false) := by
  obtain ⟨e, hr, _, hk, hd⟩ := Filter.reads_of_sql h hne hn
  refine ⟨e, hr, fun he => ?_, hk⟩
  by_contra hm
  obtain ⟨values, hy, hv⟩ := hd (by simpa using hm)
  rw [value_eq_of_normal_eq he, hv] at hy
  cases hy

theorem Filter.normal_eq_iff_group :
    let filter : Filter := [.field "a.b" (.tests [.compare .gt (.ofInt 5),
      .group .or [.equals (.ofInt 2), .tests [.compare .lt .null], .equals (.ofInt 3)]])]
    let sql := "((`a`.`b` > 5 AND `a`.`b` = 2 OR `a`.`b` = 3))"
    filter.sql .strict .or = .ok sql ∧ Unquoted (Filter.names filter) ∧
      ∃ e, expression? sql = some e ∧
        (e.normal = (filter.meaning .strict .or).normal ↔ Filter.misgrouped filter = false) := by
  intro filter sql
  have h : filter.sql .strict .or = .ok sql := rfl
  have hn : Unquoted (Filter.names filter) := by decide
  exact ⟨h, hn, Filter.normal_eq_iff h (by decide) hn⟩

end Reading

end JsonSelect
