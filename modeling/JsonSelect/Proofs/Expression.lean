import JsonSelect.Filter.Operator

/-! Expressions of AND and OR, their normal forms and their values. -/
namespace JsonSelect

/-- A node without parts is an expression that says nothing. -/
inductive Expression (α : Type) where
  | atom (atom : α)
  | node (connective : Connective) (parts : List (Expression α))

namespace Expression

variable {α : Type} {c d : Connective} {e : Expression α} {parts more : List (Expression α)}

mutual

/-- The atoms from left to right. -/
def leaves : Expression α → List α
  | atom a => [a]
  | node _ parts => allLeaves parts

def allLeaves : List (Expression α) → List α
  | [] => []
  | part :: rest => part.leaves ++ allLeaves rest

end

/-- What an expression is among the parts of a node: its own parts if it has the same connective. -/
def spliced (c : Connective) : Expression α → List (Expression α)
  | atom a => [atom a]
  | node d parts => if d = c then parts else [node d parts]

def build (c : Connective) : List (Expression α) → Option (Expression α)
  | [] => none
  | [part] => some part
  | first :: second :: rest => some (node c (first :: second :: rest))

mutual

/-- The expression without parts that say nothing, without nodes of a single part and without nodes
directly under one of the same connective. -/
def normal : Expression α → Option (Expression α)
  | atom a => some (atom a)
  | node c parts => build c (operands c parts)

def operands (c : Connective) : List (Expression α) → List (Expression α)
  | [] => []
  | part :: rest => part.normal.toList.flatMap (spliced c) ++ operands c rest

end

def IsNode (c : Connective) : Expression α → Prop
  | atom _ => False
  | node d _ => d = c

inductive IsNormal : Expression α → Prop where
  | atom (a : α) : IsNormal (atom a)
  | node {c : Connective} {parts : List (Expression α)} (hl : 2 ≤ parts.length)
    (h : ∀ part ∈ parts, IsNormal part) (hc : ∀ part ∈ parts, ¬ part.IsNode c) :
    IsNormal (node c parts)

section Leaves

@[simp] theorem leaves_atom (a : α) : (atom a).leaves = [a] := by rw [leaves]

@[simp] theorem leaves_node : (node c parts).leaves = allLeaves parts := by rw [leaves]

@[simp] theorem allLeaves_nil : allLeaves ([] : List (Expression α)) = [] := by rw [allLeaves]

@[simp] theorem allLeaves_cons : allLeaves (e :: parts) = e.leaves ++ allLeaves parts := by
  rw [allLeaves]

theorem allLeaves_append : allLeaves (parts ++ more) = allLeaves parts ++ allLeaves more := by
  induction parts with
  | nil => simp
  | cons part parts ih => simp [ih]

theorem allLeaves_spliced : allLeaves (spliced c e) = e.leaves := by
  cases e with
  | atom a => simp [spliced]
  | node d parts =>
    by_cases hd : d = c
    · simp [spliced, hd]
    · simp [spliced, hd]

theorem leaves_build : (build c parts).toList.flatMap leaves = allLeaves parts := by
  rcases parts with _ | ⟨first, _ | ⟨second, rest⟩⟩ <;> simp [build]

mutual

theorem leaves_normal : ∀ e : Expression α, e.normal.toList.flatMap leaves = e.leaves
  | atom a => by simp [normal]
  | node c parts => by rw [normal, leaves_build, allLeaves_operands c parts, leaves_node]

theorem allLeaves_operands : ∀ (c : Connective) (parts : List (Expression α)),
    allLeaves (operands c parts) = allLeaves parts
  | _, [] => by rw [operands]
  | c, part :: parts => by
    have hp := leaves_normal part
    rw [operands, allLeaves_append, allLeaves_operands c parts, allLeaves_cons, ← hp]
    cases part.normal with
    | none => simp
    | some e => simp [allLeaves_spliced]

end

theorem leaves_eq_of_normal_eq {f : Expression α} (h : e.normal = f.normal) :
    e.leaves = f.leaves := by
  rw [← leaves_normal e, h, leaves_normal f]

end Leaves

section Normal

@[simp] theorem normal_atom (a : α) : (atom a).normal = some (atom a) := by rw [normal]

@[simp] theorem normal_node : (node c parts).normal = build c (operands c parts) := by rw [normal]

@[simp] theorem operands_nil : operands c ([] : List (Expression α)) = [] := by rw [operands]

theorem operands_cons : operands c (e :: parts) = operands c [e] ++ operands c parts := by
  simp [operands]

theorem operands_append : operands c (parts ++ more) = operands c parts ++ operands c more := by
  induction parts with
  | nil => simp
  | cons part parts ih =>
    rw [List.cons_append, operands_cons, ih, @operands_cons _ _ part parts, List.append_assoc]

theorem operands_single : operands c [e] = e.normal.toList.flatMap (spliced c) := by
  simp [operands]

theorem operands_eq_of_normal_eq {f : Expression α} (h : e.normal = f.normal) :
    operands c [e] = operands c [f] := by
  rw [operands_single, h, operands_single]

theorem isNormal_build (h : ∀ part ∈ parts, part.IsNormal) (hc : ∀ part ∈ parts, ¬ part.IsNode c) :
    ∀ n ∈ build c parts, n.IsNormal := by
  intro n hn
  rcases parts with _ | ⟨first, _ | ⟨second, rest⟩⟩
  · cases hn
  · cases hn
    exact h n (by simp)
  · cases hn
    exact .node (by simp) h hc

theorem isNormal_spliced (h : e.IsNormal) :
    ∀ part ∈ spliced c e, part.IsNormal ∧ ¬ part.IsNode c := by
  intro part hp
  cases h with
  | atom a =>
    rw [spliced, List.mem_singleton] at hp
    subst hp
    exact ⟨.atom a, id⟩
  | @node d parts hl h hc =>
    by_cases hd : d = c
    · subst hd
      rw [spliced, if_pos rfl] at hp
      exact ⟨h part hp, hc part hp⟩
    · rw [spliced, if_neg hd, List.mem_singleton] at hp
      subst hp
      exact ⟨.node hl h hc, hd⟩

mutual

theorem isNormal_normal : ∀ (e : Expression α), ∀ n ∈ e.normal, n.IsNormal
  | atom a, n, hn => by
    rw [normal_atom] at hn
    cases hn
    exact .atom a
  | node c parts, n, hn => by
    rw [normal_node] at hn
    have ho := isNormal_operands c parts
    exact isNormal_build (fun part hp => (ho part hp).1) (fun part hp => (ho part hp).2) n hn

theorem isNormal_operands : ∀ (c : Connective) (parts : List (Expression α)),
    ∀ part ∈ operands c parts, part.IsNormal ∧ ¬ part.IsNode c
  | _, [], part, hp => by simp at hp
  | c, e :: rest, part, hp => by
    rw [operands, List.mem_append, List.mem_flatMap] at hp
    rcases hp with ⟨n, hn, hp⟩ | hp
    · exact isNormal_spliced (isNormal_normal e n (Option.mem_toList.mp hn)) part hp
    · exact isNormal_operands c rest part hp

end

/-- Under a node of the same connective, a node stands for its parts. -/
theorem operands_node : operands c [node c parts] = operands c parts := by
  have ho := isNormal_operands c parts
  rw [operands_single, normal_node]
  rcases hp : operands c parts with _ | ⟨first, _ | ⟨second, rest⟩⟩
  · rfl
  · have hf := (ho first (by simp [hp])).2
    cases first with
    | atom a => rfl
    | node d parts =>
      have hd : d ≠ c := hf
      simp [build, spliced, hd]
  · simp [build, spliced]

/-- A node of a single part says what the part does. -/
theorem normal_node_single : (node c [e]).normal = e.normal := by
  rw [normal_node, operands_single]
  cases hn : e.normal with
  | none => rfl
  | some n =>
    have hi := isNormal_normal e n hn
    cases hi with
    | atom a => rfl
    | @node d parts hl h hc =>
      by_cases hd : d = c
      · subst hd
        rcases parts with _ | ⟨first, _ | ⟨second, rest⟩⟩
        · simp at hl
        · simp at hl
        · simp [spliced, build]
      · simp [spliced, build, hd]

theorem normal_node_congr (h : operands c parts = operands c more) :
    (node c parts).normal = (node c more).normal := by
  rw [normal_node, h, normal_node]

end Normal
end Expression
end JsonSelect
