import JsonSelect.Proofs.Where.Reading

/-! Conditions that are read as they are built, and conditions that are not. -/
namespace JsonSelect

open Sql
open Expression hiding atom node

mutual

/-- The expression that a condition was built for: each chain is one operand. -/
def Clause.meaning : Clause → Expression (List Token)
  | .single atom => .atom atom.tokens
  | .chain connective parts => .node connective (Clause.meanings parts)
  | .parens inner => inner.meaning

def Clause.meanings : List Clause → List (Expression (List Token))
  | [] => []
  | part :: rest => part.meaning :: Clause.meanings rest

end

mutual

/-- Somewhere AND stands beside a part that shows an OR outside parentheses. -/
def Clause.Misgrouped : Clause → Prop
  | .single _ => False
  | .chain connective parts =>
    (connective = .and ∧ 2 ≤ parts.length ∧ ∃ part ∈ parts, part.line.closed ≠ []) ∨
      Clause.SomeMisgrouped parts
  | .parens inner => inner.Misgrouped

def Clause.SomeMisgrouped : List Clause → Prop
  | [] => False
  | part :: rest => part.Misgrouped ∨ Clause.SomeMisgrouped rest

end

namespace Clause

variable {connective : Connective} {clause : Clause} {parts : List Clause}

theorem meanings_eq_map (parts : List Clause) : meanings parts = parts.map meaning := by
  induction parts with
  | nil => rfl
  | cons part rest ih => simp [meanings, ih]

theorem someMisgrouped_iff : SomeMisgrouped parts ↔ ∃ part ∈ parts, part.Misgrouped := by
  induction parts with
  | nil => simp [SomeMisgrouped]
  | cons part rest ih => simp [SomeMisgrouped, ih]

mutual

theorem leaves_line : ∀ clause : Clause, clause.line.expression.leaves = clause.meaning.leaves
  | .single atom => by simp [line, meaning, Line.expression, Line.operand, Line.groups]
  | .chain connective parts => by
    rw [line, meaning, Line.leaves_join, leaves_node, leaves_lines parts]
  | .parens inner => by
    have hi := leaves_line inner
    simpa [line, meaning, Line.expression, Line.operand, Line.groups] using hi

theorem leaves_lines : ∀ parts : List Clause,
    allLeaves ((lines parts).map Line.expression) = allLeaves (meanings parts)
  | [] => rfl
  | part :: parts => by
    rw [lines, meanings, List.map_cons, allLeaves_cons, allLeaves_cons, leaves_line part,
      leaves_lines parts]

end

theorem full_line (h : clause.Proper) : clause.line.Full := by
  induction h with
  | single => exact Line.full_operand (by simp)
  | @chain connective parts hne _ ih =>
    rw [line, lines_eq_map]
    exact Line.full_join connective (by simpa using hne) (by simpa using ih)
  | parens _ ih => exact Line.full_operand ih.leaves_ne_nil

section Kept

theorem normal_operand (e : Expression (List Token)) :
    (Line.operand e).expression.normal = e.normal := by
  rw [Line.normal_expression rfl]
  exact normal_node_single

mutual

/-- A condition without such a place is read as it is built. -/
theorem normal_line : ∀ clause : Clause, ¬ clause.Misgrouped →
    clause.line.expression.normal = clause.meaning.normal
  | .single atom, _ => by rw [line, normal_operand, meaning]
  | .parens inner, h => by
    rw [line, normal_operand, meaning]
    exact normal_line inner h
  | .chain connective parts, h => by
    have hm : ¬ SomeMisgrouped parts := fun hs => h (.inr hs)
    have ho := operands_lines connective parts hm
    rw [line, meaning, ← normal_node_congr ho]
    cases connective with
    | or => exact Line.normal_join_or _
    | and =>
      rcases parts with _ | ⟨first, _ | ⟨second, rest⟩⟩
      · exact Line.normal_join_and (by simp [lines])
      · rw [lines, lines, Line.join_single]
        exact normal_node_single.symm
      · refine Line.normal_join_and fun part hp => ?_
        rw [lines_eq_map] at hp
        obtain ⟨clause, hc, rfl⟩ := List.mem_map.mp hp
        by_contra hn
        exact h (.inl ⟨rfl, by simp, clause, hc, hn⟩)

theorem operands_lines : ∀ (connective : Connective) (parts : List Clause), ¬ SomeMisgrouped parts →
    operands connective ((lines parts).map Line.expression) =
      operands connective (meanings parts)
  | _, [], _ => rfl
  | connective, part :: parts, h => by
    have hp := normal_line part fun hm => h (.inl hm)
    rw [lines, meanings, List.map_cons, operands_cons, operands_eq_of_normal_eq hp,
      operands_lines connective parts fun hs => h (.inr hs), ← operands_cons]

end

end Kept

section Lost

/-- Some values make the condition as it is read true and the one that was built false. -/
def Differs (clause : Clause) : Prop :=
  ∃ values, clause.line.expression.value values = some .yes ∧ clause.meaning.value values = some .no

theorem differs_chain_iff : (chain connective parts).Differs ↔ ∃ values,
    (Line.join connective (parts.map line)).expression.value values = some .yes ∧
      joint connective (parts.map meaning) values = some .no := by
  simp [Differs, line, meaning, lines_eq_map, meanings_eq_map]

theorem combine_no_joint (connective : Connective) (rest : List (Expression (List Token))) :
    connective.combine (some .no) (joint connective rest fun _ => connective.neutral) =
      some .no := by
  rw [joint_const]
  cases allLeaves rest with
  | nil => cases connective <;> rfl
  | cons => cases connective <;> rfl

theorem combine_value_no (connective : Connective) (e : Expression (List Token)) :
    connective.combine (e.value fun _ => connective.neutral) (some .no) = some .no := by
  rw [value_const]
  cases e.leaves with
  | nil => cases connective <;> rfl
  | cons => cases connective <;> rfl

/-- A difference is not lost among other parts of a chain. -/
theorem differs_chain (hp : ∃ part ∈ parts, part.Differs) : (chain connective parts).Differs := by
  obtain ⟨part, hp, hd⟩ := hp
  rw [differs_chain_iff]
  induction parts with
  | nil => cases hp
  | cons other parts ih =>
    cases parts with
    | nil =>
      obtain ⟨values, hy, hn⟩ := hd
      rw [List.mem_singleton.mp hp] at hy hn
      exact ⟨values, hy, by simpa using hn⟩
    | cons next parts =>
      rcases List.mem_cons.mp hp with rfl | hp
      · obtain ⟨values, hy, hn⟩ := hd
        refine ⟨_, Line.op_yes_left connective hy, ?_⟩
        rw [List.map_cons, leaves_line, joint_choose_cons, hn]
        exact combine_no_joint connective _
      · obtain ⟨values, hy, hn⟩ := ih hp
        refine ⟨_, Line.op_yes_right connective hy, ?_⟩
        rw [List.map_cons, leaves_line, joint_choose_cons, hn]
        exact combine_value_no connective _

/-- AND beside an OR that is shown makes a difference. -/
theorem differs_of_closed (h : ∀ part ∈ parts, part.Proper) (hl : 2 ≤ parts.length)
    (hc : ∃ part ∈ parts, part.line.closed ≠ []) : (chain .and parts).Differs := by
  rcases parts with _ | ⟨first, _ | ⟨second, rest⟩⟩
  · simp at hl
  · simp at hl
  have hf : first.Proper := h first (by simp)
  have hr : (Line.join .and ((second :: rest).map line)).Full := by
    refine Line.full_join .and (by simp) fun x hx => ?_
    obtain ⟨part, hp, rfl⟩ := List.mem_map.mp hx
    exact full_line (h part (List.mem_cons_of_mem _ hp))
  have hn : allLeaves ((second :: rest).map meaning) ≠ [] := by
    have hl := hr.leaves_ne_nil
    rwa [Line.leaves_join, ← lines_eq_map, leaves_lines, meanings_eq_map] at hl
  have hfn : first.meaning.leaves ≠ [] := by
    rw [← leaves_line]
    exact (full_line hf).leaves_ne_nil
  rw [differs_chain_iff]
  by_cases hs : first.line.closed = []
  · have hj : (Line.join .and ((second :: rest).map line)).closed ≠ [] := by
      refine Line.closed_join_and_ne_nil ?_
      obtain ⟨part, hp, hc⟩ := hc
      rcases List.mem_cons.mp hp with rfl | hp
      · exact absurd hs hc
      · exact ⟨part.line, List.mem_map_of_mem hp, hc⟩
    refine ⟨choose _ (fun _ => .no) fun _ => .yes, Line.and_yes_of_closed_right hr hj, ?_⟩
    rw [List.map_cons, leaves_line, joint_choose_cons, value_const_of_ne_nil hfn]
    exact Connective.combine_and_no_left
  · have hy := full_line hf
    refine ⟨choose _ (fun _ => .yes) fun _ => .no, Line.and_yes_of_closed_left hy hs, ?_⟩
    rw [List.map_cons, leaves_line, joint_choose_cons, joint_const_of_ne_nil hn]
    exact combine_value_no .and _

theorem differs_of_misgrouped (h : clause.Proper) (hm : clause.Misgrouped) : clause.Differs := by
  induction h with
  | single => exact absurd hm id
  | @chain connective parts hne hp ih =>
    rcases hm with ⟨rfl, hl, hc⟩ | hs
    · exact differs_of_closed hp hl hc
    · obtain ⟨part, hm, hp⟩ := someMisgrouped_iff.mp hs
      exact differs_chain ⟨part, hm, ih part hm hp⟩
  | parens _ ih =>
    obtain ⟨values, hy, hn⟩ := ih hm
    exact ⟨values, by simpa [line, Line.expression, Line.operand, Line.groups] using hy, hn⟩

end Lost
end Clause
end JsonSelect
