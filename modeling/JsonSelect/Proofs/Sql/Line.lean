import JsonSelect.Proofs.Truth

/-! A row of operands with AND and OR between them, where AND binds tighter. -/
namespace JsonSelect.Sql

/-- The operands of a row, in the groups that OR separates. AND stands between those of a group. -/
structure Line (α : Type) where
  closed : List (List (Expression α))
  last : List (Expression α)

namespace Line

variable {α : Type}

def empty : Line α := ⟨[], []⟩

def operand (e : Expression α) : Line α := ⟨[], [e]⟩

def groups (line : Line α) : List (List (Expression α)) := line.closed ++ [line.last]

def expression (line : Line α) : Expression α := .node .or (line.groups.map (.node .and))

/-- Two rows with AND between them. Their groups that meet become one. -/
def and (line more : Line α) : Line α :=
  match more.closed with
  | [] => ⟨line.closed, line.last ++ more.last⟩
  | first :: rest => ⟨line.closed ++ (line.last ++ first) :: rest, more.last⟩

def or (line more : Line α) : Line α := ⟨line.groups ++ more.closed, more.last⟩

/-- The row with OR after it. -/
def cut (line : Line α) : Line α := ⟨line.groups, []⟩

def op : Connective → Line α → Line α → Line α
  | .and => and
  | .or => or

def join (c : Connective) : List (Line α) → Line α
  | [] => empty
  | [line] => line
  | line :: next :: rest => op c line (join c (next :: rest))

variable {line more others : Line α}

theorem empty_and : empty.and line = line := by
  obtain ⟨_ | ⟨first, rest⟩, last⟩ := line <;> rfl

theorem and_assoc : (line.and more).and others = line.and (more.and others) := by
  obtain ⟨_ | ⟨first, rest⟩, last⟩ := more <;> obtain ⟨_ | ⟨next, others⟩, final⟩ := others <;>
    simp [and]

theorem cut_and : (line.and more).cut.and others = line.and (more.or others) := by
  obtain ⟨_ | ⟨first, rest⟩, last⟩ := more <;> obtain ⟨_ | ⟨next, others⟩, final⟩ := others <;>
    simp [and, or, cut, groups]

@[simp] theorem groups_or : (line.or more).groups = line.groups ++ more.groups := by
  simp [groups, or]

/-- The groups of two rows with AND between them. -/
theorem groups_and {first : List (Expression α)} {rest : List (List (Expression α))}
    (h : more.groups = first :: rest) :
    (line.and more).groups = line.closed ++ (line.last ++ first) :: rest := by
  obtain ⟨_ | ⟨next, others⟩, last⟩ := more
  · cases h
    simp [and, groups]
  · cases h
    simp [and, groups]

/-- There is always a group, if only an empty one. -/
theorem exists_groups_eq_cons (line : Line α) : ∃ first rest, line.groups = first :: rest :=
  List.exists_cons_of_ne_nil (by simp [groups])

@[simp] theorem join_single (c : Connective) : join c [line] = line := rfl

open Expression

section Leaves

theorem allLeaves_groups (groups : List (List (Expression α))) :
    allLeaves (groups.map (.node .and)) = allLeaves groups.flatten := by
  induction groups with
  | nil => simp
  | cons group groups ih => simp [ih, allLeaves_append]

theorem leaves_expression : line.expression.leaves = allLeaves line.groups.flatten := by
  rw [expression, leaves_node, allLeaves_groups]

theorem leaves_op (c : Connective) :
    (line.op c more).expression.leaves = line.expression.leaves ++ more.expression.leaves := by
  rw [leaves_expression, leaves_expression, leaves_expression, ← allLeaves_append]
  cases c with
  | and =>
    obtain ⟨first, rest, hm⟩ := more.exists_groups_eq_cons
    rw [op, groups_and hm, hm]
    simp [groups]
  | or => simp [op]

theorem leaves_join (c : Connective) (lines : List (Line α)) :
    (join c lines).expression.leaves = allLeaves (lines.map expression) := by
  induction lines with
  | nil => simp [join, empty, expression, groups]
  | cons line lines ih =>
    cases lines with
    | nil => simp
    | cons next lines => rw [join, leaves_op, ih, ← allLeaves_cons, ← List.map_cons]

end Leaves

section Normal

/-- A row without OR is a single group. -/
theorem normal_expression (h : line.closed = []) :
    line.expression.normal = (Expression.node .and line.last).normal := by
  rw [expression, groups, h]
  exact normal_node_single

theorem normal_join_or (lines : List (Line α)) :
    (join .or lines).expression.normal = (Expression.node .or (lines.map expression)).normal := by
  induction lines with
  | nil => simp [join, empty, expression, groups, build, operands]
  | cons line lines ih =>
    cases lines with
    | nil => exact normal_node_single.symm
    | cons next lines =>
      have hm := operands_eq_of_normal_eq (c := .or) ih
      have ho : operands .or [line.expression] ++
          operands .or [(join .or (next :: lines)).expression] =
            operands .or ((line :: next :: lines).map expression) := by
        rw [hm, operands_node, ← operands_cons, ← List.map_cons]
      refine normal_node_congr ?_
      rw [join, op, groups_or, List.map_append, operands_append, ← ho, expression, expression,
        operands_node, operands_node]

/-- Rows of a single group each become one group. -/
theorem closed_join_and {lines : List (Line α)} (h : ∀ line ∈ lines, line.closed = []) :
    (join .and lines).closed = [] ∧ (join .and lines).last = lines.flatMap last := by
  induction lines with
  | nil => exact ⟨rfl, rfl⟩
  | cons line lines ih =>
    cases lines with
    | nil => exact ⟨h line (by simp), by simp⟩
    | cons next lines =>
      obtain ⟨hc, hl⟩ := ih fun x hx => h x (by simp [hx])
      rw [join, op, and, hc, hl]
      exact ⟨h line (by simp), rfl⟩

theorem normal_join_and {lines : List (Line α)} (h : ∀ line ∈ lines, line.closed = []) :
    (join .and lines).expression.normal = (Expression.node .and (lines.map expression)).normal := by
  obtain ⟨hc, hl⟩ := closed_join_and h
  rw [normal_expression hc, hl]
  refine normal_node_congr ?_
  clear hc hl
  induction lines with
  | nil => rfl
  | cons line lines ih =>
    have hn := operands_eq_of_normal_eq (c := .and) (normal_expression (h line (by simp)))
    rw [List.flatMap_cons, operands_append, ih fun x hx => h x (by simp [hx]), List.map_cons,
      operands_cons, hn, operands_node]

end Normal

section Values

variable {values others : Nat → Truth} {closed rest : List (List (Expression α))}
  {last first : List (Expression α)}

theorem length_leaves_cons {group : List (Expression α)} :
    (allLeaves (group :: closed ++ rest).flatten).length =
      (allLeaves group).length + (allLeaves (closed ++ rest).flatten).length := by
  simp [allLeaves_append]

theorem value_expression :
    line.expression.value values = joint .or (line.groups.map (.node .and)) values := by
  rw [expression, value_node]

/-- A group that is true stays so when it is followed by what is true. -/
theorem joint_yes_left
    (h : joint .or ((closed ++ [last]).map (.node .and)) values = some .yes) :
    joint .or ((closed ++ (last ++ first) :: rest).map (.node .and))
      (choose (allLeaves (closed ++ [last]).flatten).length values fun _ => .yes) = some .yes := by
  induction closed generalizing values with
  | nil =>
    refine joint_or_eq_yes.mpr (.inl ?_)
    have hl : joint .and last values = some .yes := by simpa using h
    have hf : (joint .and first fun _ => .yes) = none ∨
        (joint .and first fun _ => .yes) = some .yes := by
      rw [joint_const]
      cases allLeaves first <;> simp
    have hs : (([] ++ [last]) : List (List (Expression α))).flatten = last := by simp
    rw [value_node, hs, joint_choose_append, hl]
    rcases hf with hf | hf <;> rw [hf] <;> rfl
  | cons group closed ih =>
    refine joint_or_eq_yes.mpr ?_
    rw [value_node, length_leaves_cons, leaves_node, choose_shift]
    rcases joint_or_eq_yes.mp h with h | h
    · rw [value_node] at h
      rw [joint_congr .and group fun i hi => choose_of_lt (by omega)]
      exact .inl h
    · rw [leaves_node] at h
      exact .inr (ih h)

/-- A group that is true stays so when it follows what is true. -/
theorem joint_yes_right (h : joint .or ((first :: rest).map (.node .and)) values = some .yes) :
    joint .or ((closed ++ (last ++ first) :: rest).map (.node .and))
      (choose (allLeaves (closed ++ [last]).flatten).length (fun _ => .yes) values) =
        some .yes := by
  induction closed with
  | nil =>
    have hs : (([] ++ [last]) : List (List (Expression α))).flatten = last := by simp
    refine joint_or_eq_yes.mpr ?_
    rw [value_node, hs, joint_choose_append, leaves_node, allLeaves_append, List.length_append,
      choose_drop]
    rcases joint_or_eq_yes.mp h with h | h
    · rw [value_node] at h
      rw [h, joint_const]
      exact .inl (by cases allLeaves last <;> rfl)
    · rw [leaves_node] at h
      exact .inr h
  | cons group closed ih =>
    refine joint_or_eq_yes.mpr (.inr ?_)
    rw [length_leaves_cons, leaves_node, choose_shift]
    exact ih

/-- With OR in it, a row that is true is not changed by what follows its last group. -/
theorem joint_yes_of_closed {group : List (Expression α)} (hg : allLeaves group ≠ []) :
    joint .or ((group :: closed ++ (last ++ first) :: rest).map (.node .and))
      (choose (allLeaves (group :: closed ++ [last]).flatten).length (fun _ => .yes) values) =
        some .yes := by
  refine joint_or_eq_yes.mpr (.inl ?_)
  rw [value_node, length_leaves_cons,
    joint_congr .and group fun i hi => choose_of_lt (by omega)]
  exact joint_const_of_ne_nil hg .yes

/-- With OR in it, a row that is true is not changed by what stands before its first group. -/
theorem joint_yes_of_rest (hr : allLeaves rest.flatten ≠ []) :
    joint .or ((closed ++ (last ++ first) :: rest).map (.node .and))
      (choose (allLeaves (closed ++ [last]).flatten).length values fun _ => .yes) = some .yes := by
  induction closed generalizing values with
  | nil =>
    have hs : (([] ++ [last]) : List (List (Expression α))).flatten = last := by simp
    refine joint_or_eq_yes.mpr (.inr ?_)
    rw [hs, leaves_node, allLeaves_append, List.length_append, choose_drop]
    exact joint_const_of_ne_nil (by rwa [allLeaves_groups]) .yes
  | cons group closed ih =>
    refine joint_or_eq_yes.mpr (.inr ?_)
    rw [length_leaves_cons, leaves_node, choose_shift]
    exact ih

/-- Every group has an atom. -/
def Full (line : Line α) : Prop := ∀ group ∈ line.groups, allLeaves group ≠ []

theorem full_operand {e : Expression α} (h : e.leaves ≠ []) : (operand e).Full := by
  simpa [Full, operand, groups] using h

theorem full_op (c : Connective) (h : line.Full) (hm : more.Full) : (line.op c more).Full := by
  intro group hg
  cases c with
  | or =>
    rw [op, groups_or, List.mem_append] at hg
    exact hg.elim (h group) (hm group)
  | and =>
    obtain ⟨first, rest, hs⟩ := more.exists_groups_eq_cons
    rw [op, groups_and hs, List.mem_append, List.mem_cons] at hg
    rcases hg with hg | rfl | hg
    · exact h group (List.mem_append_left _ hg)
    · have hl : allLeaves line.last ≠ [] := h line.last (by simp [groups])
      simp [allLeaves_append, hl]
    · exact hm group (by simp [hs, hg])

theorem full_join (c : Connective) {lines : List (Line α)} (hne : lines ≠ [])
    (h : ∀ line ∈ lines, line.Full) : (join c lines).Full := by
  induction lines with
  | nil => exact absurd rfl hne
  | cons line lines ih =>
    cases lines with
    | nil => exact h line (by simp)
    | cons next lines =>
      exact full_op c (h line (by simp)) (ih (by simp) fun x hx => h x (by simp [hx]))

theorem Full.leaves_ne_nil (h : line.Full) : line.expression.leaves ≠ [] := by
  have hl : allLeaves line.last ≠ [] := h line.last (by simp [groups])
  simp [leaves_expression, groups, allLeaves_append, hl]

/-- The other row leaves the decision to a row that is true. -/
theorem op_yes_left (c : Connective) (h : line.expression.value values = some .yes) :
    (line.op c more).expression.value
      (choose line.expression.leaves.length values fun _ => c.neutral) = some .yes := by
  rw [value_expression] at h
  cases c with
  | and =>
    obtain ⟨first, rest, hm⟩ := more.exists_groups_eq_cons
    rw [op, value_expression, groups_and hm, leaves_expression]
    exact joint_yes_left h
  | or =>
    rw [op, value_expression, groups_or, List.map_append, leaves_expression, ← allLeaves_groups,
      joint_choose_append, h]
    exact Connective.combine_or_eq_yes.mpr (.inl rfl)

theorem op_yes_right (c : Connective) (h : more.expression.value values = some .yes) :
    (line.op c more).expression.value
      (choose line.expression.leaves.length (fun _ => c.neutral) values) = some .yes := by
  rw [value_expression] at h
  cases c with
  | and =>
    obtain ⟨first, rest, hm⟩ := more.exists_groups_eq_cons
    rw [hm] at h
    rw [op, value_expression, groups_and hm, leaves_expression]
    exact joint_yes_right h
  | or =>
    rw [op, value_expression, groups_or, List.map_append, leaves_expression, ← allLeaves_groups,
      joint_choose_append, h]
    exact Connective.combine_or_eq_yes.mpr (.inr rfl)

/-- A row with OR in it may be true whatever AND adds behind it. -/
theorem and_yes_of_closed_left (h : line.Full) (hc : line.closed ≠ []) :
    (line.and more).expression.value
      (choose line.expression.leaves.length (fun _ => .yes) values) = some .yes := by
  obtain ⟨_ | ⟨group, closed⟩, last⟩ := line
  · exact absurd rfl hc
  · obtain ⟨first, rest, hm⟩ := more.exists_groups_eq_cons
    rw [value_expression, groups_and hm, leaves_expression]
    exact joint_yes_of_closed (h group (by simp [groups]))

/-- A row with OR in it may be true whatever AND adds before it. -/
theorem and_yes_of_closed_right (h : more.Full) (hc : more.closed ≠ []) :
    (line.and more).expression.value
      (choose line.expression.leaves.length values fun _ => .yes) = some .yes := by
  obtain ⟨_ | ⟨first, closed⟩, last⟩ := more
  · exact absurd rfl hc
  · have hl : allLeaves last ≠ [] := h last (by simp [groups])
    have hm : (Line.mk (first :: closed) last).groups = first :: (closed ++ [last]) := rfl
    rw [value_expression, groups_and hm, leaves_expression]
    exact joint_yes_of_rest (by simp [allLeaves_append, hl])

theorem closed_join_or_ne_nil {lines : List (Line α)} (h : ∀ line ∈ lines, line.closed = []) :
    (join .or lines).closed ≠ [] ↔ 2 ≤ lines.length := by
  rcases lines with _ | ⟨first, _ | ⟨second, rest⟩⟩
  · simp [join, empty]
  · simp [h first (by simp)]
  · simp [join, op, or, groups]

theorem closed_and_ne_nil (h : line.closed ≠ [] ∨ more.closed ≠ []) :
    (line.and more).closed ≠ [] := by
  obtain ⟨_ | ⟨first, rest⟩, last⟩ := more
  · simpa [and] using h
  · simp [and]

theorem closed_join_and_ne_nil {lines : List (Line α)} (h : ∃ line ∈ lines, line.closed ≠ []) :
    (join .and lines).closed ≠ [] := by
  obtain ⟨line, hl, hc⟩ := h
  induction lines with
  | nil => cases hl
  | cons other lines ih =>
    cases lines with
    | nil =>
      rw [List.mem_singleton.mp hl] at hc
      exact hc
    | cons next lines =>
      rcases List.mem_cons.mp hl with rfl | hl
      · exact closed_and_ne_nil (.inl hc)
      · exact closed_and_ne_nil (.inr (ih hl))

end Values
end Line
end JsonSelect.Sql
