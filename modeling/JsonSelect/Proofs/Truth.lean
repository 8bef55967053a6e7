import JsonSelect.Proofs.Expression

/-! Values of expressions in the logic of true, false and unknown. -/
namespace JsonSelect

inductive Truth where
  | no
  | unknown
  | yes
deriving DecidableEq

namespace Connective

/-- AND is the smaller of two values and OR the greater one. -/
def apply : Connective → Truth → Truth → Truth
  | and, .yes, t => t
  | and, .no, _ => .no
  | and, .unknown, .no => .no
  | and, .unknown, _ => .unknown
  | or, .no, t => t
  | or, .yes, _ => .yes
  | or, .unknown, .yes => .yes
  | or, .unknown, _ => .unknown

/-- The value that the other operand decides over. -/
def neutral : Connective → Truth
  | and => .yes
  | or => .no

/-- The value of two operands, one of which may say nothing. -/
def combine (c : Connective) : Option Truth → Option Truth → Option Truth
  | none, t => t
  | some s, none => some s
  | some s, some t => some (c.apply s t)

variable {c : Connective} {r s t : Option Truth}

@[simp] theorem combine_none_left : c.combine none t = t := rfl

@[simp] theorem combine_none_right : c.combine t none = t := by cases t <;> rfl

theorem combine_assoc : c.combine (c.combine r s) t = c.combine r (c.combine s t) := by
  rcases r with _ | (_ | _ | _) <;> rcases s with _ | (_ | _ | _) <;>
    rcases t with _ | (_ | _ | _) <;> cases c <;> rfl

theorem combine_self : c.combine t t = t := by
  rcases t with _ | (_ | _ | _) <;> cases c <;> rfl

theorem combine_and_no_left : and.combine (some .no) t = some .no := by
  cases t <;> rfl

theorem combine_or_eq_yes : or.combine s t = some .yes ↔ s = some .yes ∨ t = some .yes := by
  rcases s with _ | (_ | _ | _) <;> rcases t with _ | (_ | _ | _) <;> simp [combine, apply]

end Connective

namespace Expression

variable {α : Type} {c : Connective} {e f : Expression α} {parts more : List (Expression α)}
  {values others : Nat → Truth}

mutual

/-- The value when `values i` is that of the atom which has `i` others to its left. Nothing is the
value of an expression that says nothing. -/
def value : Expression α → (Nat → Truth) → Option Truth
  | atom _, values => some (values 0)
  | node c parts, values => joint c parts values

def joint (c : Connective) : List (Expression α) → (Nat → Truth) → Option Truth
  | [], _ => none
  | part :: rest, values =>
    c.combine (part.value values) (joint c rest fun i => values (part.leaves.length + i))

end

@[simp] theorem value_atom (a : α) : (atom a).value values = some (values 0) := by rw [value]

@[simp] theorem value_node : (node c parts).value values = joint c parts values := by rw [value]

@[simp] theorem joint_nil : joint c ([] : List (Expression α)) values = none := by rw [joint]

theorem joint_cons : joint c (e :: parts) values = c.combine (e.value values)
    (joint c parts fun i => values (e.leaves.length + i)) := by rw [joint]

@[simp] theorem joint_single : joint c [e] values = e.value values := by simp [joint_cons]

theorem joint_append : joint c (parts ++ more) values = c.combine (joint c parts values)
    (joint c more fun i => values ((allLeaves parts).length + i)) := by
  induction parts generalizing values with
  | nil => simp
  | cons part parts ih =>
    rw [List.cons_append, joint_cons, ih, joint_cons, Connective.combine_assoc]
    simp [Nat.add_assoc]

theorem joint_or_eq_yes : joint .or (e :: parts) values = some .yes ↔
    e.value values = some .yes ∨
      (joint .or parts fun i => values (e.leaves.length + i)) = some .yes := by
  rw [joint_cons]
  exact Connective.combine_or_eq_yes

section Normal

theorem joint_build : (build c parts).bind (·.value values) = joint c parts values := by
  rcases parts with _ | ⟨first, _ | ⟨second, rest⟩⟩ <;> simp [build]

theorem joint_spliced : joint c (spliced c e) values = e.value values := by
  cases e with
  | atom a => simp [spliced]
  | node d parts =>
    by_cases hd : d = c
    · simp [spliced, hd]
    · simp [spliced, hd]

mutual

/-- An expression has the value of its normal form. -/
theorem value_normal : ∀ (e : Expression α) (values : Nat → Truth),
    e.normal.bind (·.value values) = e.value values
  | atom a, values => by simp
  | node c parts, values => by
    rw [normal_node, joint_build, joint_operands c parts values, value_node]

theorem joint_operands : ∀ (c : Connective) (parts : List (Expression α)) (values : Nat → Truth),
    joint c (operands c parts) values = joint c parts values
  | _, [], _ => by rw [operands]
  | c, part :: parts, values => by
    have hv := value_normal part values
    have hl : allLeaves (operands c [part]) = part.leaves := by simp [allLeaves_operands]
    rw [operands_cons, joint_append, joint_operands c parts, joint_cons, hl, ← hv, operands_single]
    cases part.normal with
    | none => simp
    | some n => simp [joint_spliced]

end

theorem value_eq_of_normal_eq (h : e.normal = f.normal) (values : Nat → Truth) :
    e.value values = f.value values := by
  rw [← value_normal e, h, value_normal f]

end Normal

section Choice

/-- The values `first` for `n` atoms and the values `second` for those after them. -/
def choose (n : Nat) (first second : Nat → Truth) : Nat → Truth :=
  fun i => if i < n then first i else second (i - n)

theorem choose_of_lt {n i : Nat} (h : i < n) : choose n values others i = values i := if_pos h

theorem choose_add (n : Nat) : (fun i => choose n values others (n + i)) = others := by
  funext i
  have hn : ¬ n + i < n := by omega
  rw [choose, if_neg hn, Nat.add_sub_cancel_left]

/-- The choice for the atoms after the first `m`. -/
theorem choose_shift (m n : Nat) : (fun i => choose (m + n) values others (m + i)) =
    choose n (fun i => values (m + i)) others := by
  funext i
  by_cases hi : i < n
  · have hm : m + i < m + n := by omega
    rw [choose_of_lt hm, choose_of_lt hi]
  · have hm : ¬ m + i < m + n := by omega
    rw [choose, if_neg hm, choose, if_neg hi]
    congr 1
    omega

theorem choose_drop (m n : Nat) : (fun i => choose m values others (m + n + i)) =
    fun i => others (n + i) := by
  funext i
  have hm : ¬ m + n + i < m := by omega
  rw [choose, if_neg hm]
  congr 1
  omega

mutual

/-- Only as many values matter as there are atoms. -/
theorem value_congr : ∀ (e : Expression α) {values others : Nat → Truth},
    (∀ i < e.leaves.length, values i = others i) → e.value values = e.value others
  | atom a, values, others, h => by simp [h 0 (by simp)]
  | node c parts, values, others, h => by
    rw [value_node, value_node]
    exact joint_congr c parts (by simpa using h)

theorem joint_congr : ∀ (c : Connective) (parts : List (Expression α))
    {values others : Nat → Truth}, (∀ i < (allLeaves parts).length, values i = others i) →
    joint c parts values = joint c parts others
  | _, [], _, _, _ => by simp
  | c, part :: parts, values, others, h => by
    rw [joint_cons, joint_cons]
    rw [allLeaves_cons, List.length_append] at h
    have hp := value_congr part fun i hi => h i (by omega)
    have hm := joint_congr c parts fun i hi => h (part.leaves.length + i) (by omega)
    rw [hp, hm]

end

theorem value_choose : e.value (choose e.leaves.length values others) = e.value values :=
  value_congr e fun _ hi => choose_of_lt hi

theorem joint_choose_cons : joint c (e :: parts) (choose e.leaves.length values others) =
    c.combine (e.value values) (joint c parts others) := by
  rw [joint_cons, value_choose, choose_add]

theorem joint_choose_append :
    joint c (parts ++ more) (choose (allLeaves parts).length values others) =
      c.combine (joint c parts values) (joint c more others) := by
  rw [joint_append, choose_add, joint_congr c parts fun _ hi => choose_of_lt hi]

theorem combine_head? {first second : List α} (t : Truth) :
    c.combine (first.head?.map fun _ => t) (second.head?.map fun _ => t) =
      (first ++ second).head?.map fun _ => t := by
  cases first with
  | nil => simp
  | cons a first =>
    cases second with
    | nil => simp
    | cons b second => simp [Connective.combine_self]

mutual

/-- Where all atoms have one value, so has the expression. -/
theorem value_const (t : Truth) : ∀ e : Expression α,
    e.value (fun _ => t) = e.leaves.head?.map fun _ => t
  | atom a => by simp
  | node c parts => by rw [value_node, leaves_node, joint_const t c parts]

theorem joint_const (t : Truth) : ∀ (c : Connective) (parts : List (Expression α)),
    joint c parts (fun _ => t) = (allLeaves parts).head?.map fun _ => t
  | _, [] => by simp
  | c, part :: parts => by
    rw [joint_cons, value_const t part, joint_const t c parts, allLeaves_cons, combine_head?]

end

theorem value_const_of_ne_nil (h : e.leaves ≠ []) (t : Truth) : e.value (fun _ => t) = some t := by
  rw [value_const]
  cases hl : e.leaves with
  | nil => exact absurd hl h
  | cons a rest => rfl

theorem joint_const_of_ne_nil (h : allLeaves parts ≠ []) (t : Truth) :
    joint c parts (fun _ => t) = some t := by
  rw [joint_const]
  cases hl : allLeaves parts with
  | nil => exact absurd hl h
  | cons a rest => rfl

end Choice
end Expression
end JsonSelect
