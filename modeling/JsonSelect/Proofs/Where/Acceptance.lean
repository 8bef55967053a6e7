import JsonSelect.Proofs.Where.Language

/-! Which condition objects are read, and which of them have a condition. -/
namespace JsonSelect

namespace Leaf

/-- Patterns are neither null nor bytes; all other leaves can be written. -/
def isWritable : Leaf → Bool
  | like _ (some .null) | like _ (some (.bytes _)) => false
  | _ => true

theorem eq_like_null {leaf : Leaf} (h : leaf.isWritable = false) (hb : leaf.isBinary = false) :
    ∃ field, leaf = .like field (some .null) := by
  cases leaf with
  | like field operand =>
    rcases operand with _ | _ | _ | _ | _ | _
    case some.null => exact ⟨field, rfl⟩
    case some.bytes => cases hb
    all_goals cases h
  | _ => cases h

end Leaf

/-- Of the leaves that stay, those that cannot be written are patterns of null. -/
theorem Sifts.forall_isWritable_iff {leaves kept : List Leaf} {events : List Event}
    (h : Sifts leaves events kept) : (∀ leaf ∈ kept, leaf.isWritable = true) ↔
      ¬ ∃ field, Leaf.like field (some .null) ∈ leaves := by
  constructor
  · rintro hw ⟨field, hm⟩
    have hk : Leaf.like field (some .null) ∈ kept := by
      rw [h.kept_eq]
      exact List.mem_filter.mpr ⟨hm, rfl⟩
    cases hw _ hk
  · intro hn leaf hk
    by_contra hw
    obtain ⟨field, rfl⟩ := Leaf.eq_like_null (by simpa using hw) (h.no_bytes leaf hk)
    rw [h.kept_eq] at hk
    exact hn ⟨field, (List.mem_filter.mp hk).1⟩

section Building

variable {column : Identifier} {name : String}

theorem accepts_ofLiteral (operand : Literal) : Accepts (Pattern.ofLiteral operand)
    ((Leaf.like name (some operand)).isWritable = true) := by
  cases operand with
  | null | bytes _ => exact .fail nofun rfl
  | _ => rfl

mutual

theorem accepts_requirement {joiner : Connective} : ∀ requirement : Requirement,
    Accepts (requirement.clause column joiner).result
      (∀ leaf ∈ requirement.leaves name, leaf.isWritable = true)
  | .equals value => List.forall_mem_singleton.mpr rfl
  | .tests tests => by
    rw [Requirement.clause, Outcome.result_map, Requirement.leaves]
    exact (accepts_testClauses tests).map

theorem accepts_requirementClauses {joiner : Connective} : ∀ items : List Requirement,
    Accepts (Requirement.clauses column joiner items).result
      (∀ leaf ∈ Requirement.allLeaves name items, leaf.isWritable = true)
  | [] => List.forall_mem_nil _
  | item :: rest => by
    rw [Requirement.allLeaves]
    refine .congr ?_ List.forall_mem_append.symm
    simp only [Requirement.clauses, Outcome.result_bind, Outcome.result_pure]
    exact (accepts_requirement item).both (accepts_requirementClauses rest)

theorem accepts_test : ∀ test : Test, Accepts (test.clause column).result
    (∀ leaf ∈ test.leaves name, leaf.isWritable = true)
  | .compare comparison value => by
    rw [Test.clause]
    split <;> exact List.forall_mem_singleton.mpr rfl
  | .like operand => by
    rw [Test.leaves]
    refine .congr ?_ List.forall_mem_singleton.symm
    simp only [Test.clause, Outcome.liftM_eq, Outcome.result_bind, Outcome.result_ofExcept,
      Outcome.result_pure]
    exact (accepts_ofLiteral operand).bind_ok
  | .member values negated => List.forall_mem_singleton.mpr rfl
  | .group connective items => by
    rw [Test.clause, Outcome.result_map, Test.leaves]
    exact (accepts_requirementClauses items).map

theorem accepts_testClauses : ∀ tests : List Test, Accepts (Test.clauses column tests).result
    (∀ leaf ∈ Test.allLeaves name tests, leaf.isWritable = true)
  | [] => List.forall_mem_nil _
  | test :: rest => by
    rw [Test.allLeaves]
    refine .congr ?_ List.forall_mem_append.symm
    simp only [Test.clauses, Outcome.result_bind, Outcome.result_pure]
    exact (accepts_test test).both (accepts_testClauses rest)

end

mutual

theorem accepts_entry : ∀ entry : Entry, Accepts (entry.clause .verbatim).result
    (∀ leaf ∈ entry.leaves, leaf.isWritable = true)
  | .nested connective filter => by
    rw [Entry.clause, Outcome.result_map, Entry.leaves]
    exact (accepts_entryClauses filter).map
  | .each connective filters => by
    rw [Entry.clause, Outcome.result_map, Entry.leaves]
    exact (accepts_filterClauses filters).map
  | .field name requirement => by
    simp only [Entry.clause, Entry.leaves, Outcome.liftM_eq, Outcome.result_bind,
      Outcome.result_ofExcept]
    exact accepts_requirement requirement

theorem accepts_entryClauses : ∀ filter : List Entry,
    Accepts (Entry.clauses .verbatim filter).result
      (∀ leaf ∈ Filter.leaves filter, leaf.isWritable = true)
  | [] => List.forall_mem_nil _
  | entry :: rest => by
    rw [Filter.leaves]
    refine .congr ?_ List.forall_mem_append.symm
    simp only [Entry.clauses, Outcome.result_bind, Outcome.result_pure]
    exact (accepts_entry entry).both (accepts_entryClauses rest)

theorem accepts_filterClauses : ∀ filters : List Filter,
    Accepts (Filter.clauses .verbatim filters).result
      (∀ leaf ∈ Filter.allLeaves filters, leaf.isWritable = true)
  | [] => List.forall_mem_nil _
  | filter :: rest => by
    rw [Filter.allLeaves]
    refine .congr ?_ List.forall_mem_append.symm
    simp only [Filter.clauses, Outcome.result_bind, Outcome.result_map, Outcome.result_pure]
    exact (accepts_entryClauses filter).map.both (accepts_filterClauses rest)

end

end Building

/-- A condition object is a tree without patterns of null, or it has no condition. -/
theorem Settings.accepts_condition (conditions : Fields) :
    Accepts (Settings.condition {} conditions).result (IsTree conditions ∧
      ¬ ∃ field, Leaf.like field (some .null) ∈ Conditions.leaves conditions) := by
  rw [Settings.condition, Outcome.result_bind]
  refine (accepts_read conditions).bind fun filter hf => ?_
  have hs : Sifts (Conditions.leaves conditions) (Filter.read .skip conditions).events
      (Filter.leaves filter) := Conditions.sifts_entries (by rw [← hf])
  rw [Filter.clause, Outcome.result_map]
  exact (accepts_entryClauses filter).map.congr hs.forall_isWritable_iff

/-- The objects that are read are the trees, and of these, one has no condition exactly when it asks
for the pattern null. All failures are of the kind for conditions. -/
theorem Settings.condition_error_iff (conditions : Fields) :
    ((∃ filter, (Filter.read .skip conditions).result = .ok filter) ↔ IsTree conditions) ∧
    (∀ error, (Filter.read .skip conditions).result = .error error → error.kind = .condition) ∧
    (IsTree conditions →
      ((∃ error, (Settings.condition {} conditions).result = .error error) ↔
        ∃ field, Leaf.like field (some .null) ∈ Conditions.leaves conditions)) ∧
    ∀ error, (Settings.condition {} conditions).result = .error error →
      error.kind = .condition := by
  have hr := accepts_read conditions
  have hc := accepts_condition conditions
  refine ⟨hr.exists_ok_iff, fun _ => hr.kind_eq, fun ht => ?_, fun _ => hc.kind_eq⟩
  rw [hc.exists_error_iff, not_and_not_right]
  exact ⟨fun h => h ht, fun h _ => h⟩

instance (conditions : Fields) : Decidable (IsTree conditions) :=
  decidable_of_iff (((Filter.read .skip conditions).result.toOption).isSome = true) (by
    rw [← (accepts_read conditions).exists_ok_iff]
    cases (Filter.read .skip conditions).result <;> simp [Except.toOption])

example : IsTree [("$or", .array [.object [("a", .object [("$IN", .array [.null])])]]),
    ("b", .object [("$near", .array []), ("$or", .object [("<", .ofInt 5)])])] := by decide

example : ¬ IsTree [("b", .object [("$or", .array [.array []])])] := by decide

end JsonSelect
