import JsonSelect.Proofs.Outcome
import JsonSelect.Proofs.Where.Faults
import JsonSelect.Statement

/-! What is heard of conditions, whether or not they can be read and built. -/
namespace JsonSelect

open Outcome

namespace Fault

theorem staysOn_meet (policy : UnknownOperators) (fault : Fault) :
    (fault.meet policy).StaysOn .conditions := by
  cases fault with
  | unknown field token =>
    cases policy with
    | skip => exact staysOn_emit rfl
    | reject => exact staysOn_fail _
  | _ => exact staysOn_fail _

theorem staysOn_meetAll (policy : UnknownOperators) (faults : List Fault) :
    (meetAll policy faults).StaysOn .conditions := by
  induction faults with
  | nil => exact staysOn_pure ()
  | cons fault rest ih =>
    rw [meetAll_cons]
    exact (staysOn_meet policy fault).bind fun _ _ => ih

end Fault

/-- All that is heard of a reader is the faults that it passes over. -/
theorem Filter.staysOn_read (policy : UnknownOperators) (conditions : Fields) :
    (read policy conditions).StaysOn .conditions := by
  obtain ⟨filter, h⟩ := (Conditions.meets_read conditions).answers
  rw [h policy]
  exact (Fault.staysOn_meetAll policy _).bind fun _ _ => staysOn_pure filter

section Building

variable {column : Identifier} {policy : NamePolicy}

mutual

theorem staysOn_requirement {joiner : Connective} : ∀ requirement : Requirement,
    (requirement.clause column joiner).StaysOn .conditions
  | .equals _ => staysOn_pure _
  | .tests tests => by
    rw [Requirement.clause]
    exact (staysOn_testClauses tests).map

theorem staysOn_requirementClauses {joiner : Connective} : ∀ items : List Requirement,
    (Requirement.clauses column joiner items).StaysOn .conditions
  | [] => staysOn_pure _
  | item :: rest => by
    rw [Requirement.clauses]
    exact (staysOn_requirement item).bind fun _ _ =>
      (staysOn_requirementClauses rest).bind fun _ _ => staysOn_pure _

theorem staysOn_test : ∀ test : Test, (test.clause column).StaysOn .conditions
  | .compare comparison value => by
    rw [Test.clause]
    split
    · exact staysOn_pure _
    · exact (staysOn_emit rfl).bind fun _ _ => staysOn_pure _
  | .like operand => by
    rw [Test.clause]
    exact (staysOn_ofExcept _).bind fun _ _ => staysOn_pure _
  | .member _ _ => staysOn_pure _
  | .group connective items => by
    rw [Test.clause]
    exact (staysOn_requirementClauses items).map

theorem staysOn_testClauses : ∀ tests : List Test,
    (Test.clauses column tests).StaysOn .conditions
  | [] => staysOn_pure _
  | test :: rest => by
    rw [Test.clauses]
    exact (staysOn_test test).bind fun _ _ =>
      (staysOn_testClauses rest).bind fun _ _ => staysOn_pure _

end

mutual

theorem staysOn_entry : ∀ entry : Entry, (entry.clause policy).StaysOn .conditions
  | .nested connective filter => by
    rw [Entry.clause]
    exact (staysOn_entryClauses filter).map
  | .each connective filters => by
    rw [Entry.clause]
    exact (staysOn_filterClauses filters).map
  | .field name requirement => by
    rw [Entry.clause]
    exact (staysOn_ofExcept _).bind fun _ _ => staysOn_requirement requirement

theorem staysOn_entryClauses : ∀ filter : List Entry,
    (Entry.clauses policy filter).StaysOn .conditions
  | [] => staysOn_pure _
  | entry :: rest => by
    rw [Entry.clauses]
    exact (staysOn_entry entry).bind fun _ _ =>
      (staysOn_entryClauses rest).bind fun _ _ => staysOn_pure _

theorem staysOn_filterClauses : ∀ filters : List Filter,
    (Filter.clauses policy filters).StaysOn .conditions
  | [] => staysOn_pure _
  | filter :: rest => by
    rw [Filter.clauses]
    exact (staysOn_entryClauses filter).map.bind fun _ _ =>
      (staysOn_filterClauses rest).bind fun _ _ => staysOn_pure _

end

end Building

theorem Settings.staysOn_conditionOf (settings : Settings) (conditions : Option Json) :
    (settings.conditionOf conditions).StaysOn .conditions := by
  unfold conditionOf
  split
  · exact staysOn_pure _
  · exact staysOn_pure _
  next fields =>
    exact (Filter.staysOn_read _ fields).bind fun filter _ => (staysOn_entryClauses filter).map
  · exact staysOn_fail _

end JsonSelect
