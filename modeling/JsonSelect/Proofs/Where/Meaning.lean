import JsonSelect.Proofs.Where.Grouping

/-! The expression that a filter stands for, and the condition that is built for it. -/
namespace JsonSelect

open Sql
open Expression hiding atom node

/-- The column of a field, whatever its name. -/
def NamePolicy.column : NamePolicy → String → Identifier
  | verbatim, name => ⟨[name]⟩
  | strict, name => ⟨(Identifier.segments name.toList).map String.ofList⟩

theorem Identifier.eq_column {policy : NamePolicy} {name : String} {column : Identifier}
    (h : ofName policy name = .ok column) : column = policy.column name := by
  cases policy with
  | verbatim =>
    cases h
    rfl
  | strict =>
    simp only [ofName, ofStrict] at h
    split at h
    · cases h
    · obtain ⟨parts, hp, rfl⟩ := Error.map_eq_ok.mp h
      have hs := (checkSegments_eq_ok hp).1
      simp [NamePolicy.column, ← hs]

mutual

/-- The tests of an operator map are joined by `joiner`. -/
def Requirement.meaning (column : Identifier) (joiner : Connective) :
    Requirement → Expression (List Token)
  | .equals value => .atom (Atom.ofValue column value).tokens
  | .tests tests => .node joiner (Test.meanings column tests)

def Requirement.meanings (column : Identifier) (joiner : Connective) :
    List Requirement → List (Expression (List Token))
  | [] => []
  | item :: rest => item.meaning column joiner :: Requirement.meanings column joiner rest

/-- A test without a condition says nothing, and a group is one operand of its map. -/
def Test.meaning (column : Identifier) : Test → Expression (List Token)
  | .compare comparison value =>
    match comparison.atom? column value with
    | some atom => .atom atom.tokens
    | none => .node .and []
  | .like operand =>
    match Pattern.ofLiteral operand with
    | .ok pattern => .atom (Atom.like column pattern).tokens
    | .error _ => .node .and []
  | .member values negated => .atom (Atom.ofMember column negated values).tokens
  | .group connective items => .node connective (Requirement.meanings column connective items)

def Test.meanings (column : Identifier) : List Test → List (Expression (List Token))
  | [] => []
  | test :: rest => test.meaning column :: Test.meanings column rest

end

mutual

def Entry.meaning (policy : NamePolicy) : Entry → Expression (List Token)
  | .nested connective filter => .node connective (Entry.meanings policy filter)
  | .each connective filters => .node connective (Filter.meanings policy filters)
  | .field name requirement => requirement.meaning (policy.column name) .and

def Entry.meanings (policy : NamePolicy) : List Entry → List (Expression (List Token))
  | [] => []
  | entry :: rest => entry.meaning policy :: Entry.meanings policy rest

def Filter.meanings (policy : NamePolicy) : List (List Entry) → List (Expression (List Token))
  | [] => []
  | filter :: rest => .node .and (Entry.meanings policy filter) :: Filter.meanings policy rest

end

/-- The entries of a filter joined by `connective`. -/
def Filter.meaning (policy : NamePolicy) (connective : Connective) (filter : Filter) :
    Expression (List Token) := .node connective (Entry.meanings policy filter)

/-- Conditions that say together what the expressions say. -/
def Keeps (parts : List Clause) (meanings : List (Expression (List Token))) : Prop :=
  ∀ c, operands c (parts.map Clause.meaning) = operands c meanings

namespace Keeps

variable {connective : Connective} {parts more : List Clause} {atom : Atom}
  {meanings others : List (Expression (List Token))}

theorem nil : Keeps [] [] := fun _ => rfl

theorem none : Keeps [] [.node .and []] := fun _ => by
  simp [operands_single, build]

theorem single : Keeps [.single atom] [.atom atom.tokens] := fun _ => rfl

theorem append (h : Keeps parts meanings) (hm : Keeps more others) :
    Keeps (parts ++ more) (meanings ++ others) := by
  intro c
  rw [List.map_append, operands_append, operands_append, h c, hm c]

theorem join (h : Keeps parts meanings) :
    Keeps (Clause.join connective parts).toList [.node connective meanings] := by
  intro c
  have hn := operands_eq_of_normal_eq (c := c) (normal_node_congr (h connective))
  cases parts with
  | nil => rw [← hn]; simp [Clause.join, operands_single, build]
  | cons part parts => simpa [Clause.join, Clause.meaning, Clause.meanings_eq_map] using hn

theorem enclosed (h : Keeps parts meanings) :
    Keeps (Clause.enclosed connective parts).toList [.node connective meanings] := by
  intro c
  rw [← h.join c]
  cases parts with
  | nil => rfl
  | cons part parts => simp [Clause.enclosed, Clause.join, Clause.meaning]

end Keeps

theorem Filter.meaningInvariant (policy : NamePolicy) : Filter.Invariant policy
    (fun column joiner requirement part => Keeps part.toList [requirement.meaning column joiner])
    (fun column joiner items parts => Keeps parts (Requirement.meanings column joiner items))
    (fun column test part => Keeps part.toList [test.meaning column])
    (fun column tests parts => Keeps parts (Test.meanings column tests))
    (fun entry part => Keeps part.toList [entry.meaning policy])
    (fun entries parts => Keeps parts (Entry.meanings policy entries))
    (fun filters parts => Keeps parts (Filter.meanings policy filters)) where
  equals _ _ _ := .single
  tests _ _ _ _ hp := hp.enclosed
  noRequirements _ _ := .nil
  moreRequirements _ _ _ _ _ _ := .append
  compare column comparison value atom ha := by
    rw [Test.meaning, ha]
    exact .single
  unordered column comparison value ha := by
    rw [Test.meaning, ha]
    exact .none
  like column operand pattern hp := by
    rw [Test.meaning, hp]
    exact .single
  member _ _ _ := .single
  group _ _ _ _ hp := hp.join
  noTests _ := .nil
  moreTests _ _ _ _ _ := .append
  nested _ _ _ hp := hp.enclosed
  each _ _ _ hp := hp.enclosed
  field name requirement column part hc hp := by
    rw [Entry.meaning, ← Identifier.eq_column hc]
    exact hp
  noEntries := .nil
  moreEntries _ _ _ _ := .append
  noFilters := .nil
  moreFilters _ _ _ _ hp := .append hp.enclosed

/-- The condition of a filter says what the filter stands for. -/
theorem Filter.normal_meaning {policy : NamePolicy} {connective : Connective} {filter : Filter}
    {clause : Clause} (h : (filter.clause policy connective).result = .ok (some clause)) :
    clause.meaning.normal = (filter.meaning policy connective).normal := by
  obtain ⟨parts, hk, hc⟩ := (Filter.meaningInvariant policy).filter_clause h
  obtain ⟨_, rfl⟩ := Clause.enclosed_eq_some.mp hc.symm
  rw [Clause.meaning, Clause.meaning, Clause.meanings_eq_map]
  exact normal_node_congr (hk connective)

end JsonSelect
