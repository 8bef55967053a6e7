import JsonSelect.Proofs.Where.Language

/-! What is wrong with a condition object, and where a reader stops for it. A walk through the whole
object lists the faults; a reader stops at the first of them that its policy does not pass over. -/
namespace JsonSelect

/-- An unknown operator, or a value that has not the shape that its place asks for. -/
inductive Fault where
  | unknown (field token : String)
  | groupShape (connective : Connective) (got : Json)
  | groupItem (connective : Connective) (got : Json)
  | listValue (field : String)
  | notScalar (operator field : String) (got : Json)
  | notList (operator field : String) (got : Json)

namespace Fault

def isUnknown : Fault → Bool
  | unknown _ _ => true
  | _ => false

def error : Fault → Error
  | unknown _ token => .unknownOperator token
  | groupShape connective got => .groupShape connective got
  | groupItem connective got => .groupItem connective got
  | listValue field => .listValue field
  | notScalar operator field got => .notScalar operator field got
  | notList operator field got => .notList operator field got

/-- Only an unknown operator can be passed over. -/
def meet (policy : UnknownOperators) : Fault → Outcome Unit
  | unknown field token => Filter.passOver policy field token
  | fault => .fail fault.error

/-- The faults one after the other, up to one that is not passed over. -/
def meetAll (policy : UnknownOperators) (faults : List Fault) : Outcome Unit :=
  forM faults (meet policy)

section Meeting

variable {policy : UnknownOperators} {fault : Fault} {faults more : List Fault} {token : String}

theorem meetAll_cons : meetAll policy (fault :: faults) =
    fault.meet policy >>= fun _ => meetAll policy faults := List.forM_cons

theorem meetAll_append : meetAll policy (faults ++ more) =
    meetAll policy faults >>= fun _ => meetAll policy more := List.forM_append

theorem error_eq_unknownOperator :
    fault.error = .unknownOperator token ↔ ∃ field, fault = .unknown field token := by
  cases fault <;> simp [error]

theorem meet_reject (fault : Fault) : fault.meet .reject = .fail fault.error := by
  cases fault <;> rfl

theorem meet_of_known (h : fault.isUnknown = false) : fault.meet policy = .fail fault.error := by
  cases fault with
  | unknown field token => cases h
  | _ => rfl

/-- Where unknown operators are errors, the first fault is the end. -/
theorem result_meetAll_reject (fault : Fault) (faults : List Fault) :
    (meetAll .reject (fault :: faults)).result = .error fault.error := by
  rw [meetAll_cons, meet_reject]
  rfl

/-- Where they are skipped, the end is the first fault of another sort. -/
theorem result_meetAll_skip (faults : List Fault) : (meetAll .skip faults).result =
    match faults.find? (!·.isUnknown) with
    | none => .ok ()
    | some fault => .error fault.error := by
  induction faults with
  | nil => rfl
  | cons fault rest ih =>
    rw [meetAll_cons]
    cases hf : fault.isUnknown with
    | false =>
      rw [meet_of_known hf, List.find?_cons_of_pos (by simp [hf])]
      rfl
    | true =>
      rw [List.find?_cons_of_neg (by simp [hf]), ← ih]
      cases fault with
      | unknown field token =>
        rw [Outcome.result_bind]
        rfl
      | _ => cases hf

theorem meetAll_skip_ne_unknownOperator (faults : List Fault) (token : String) :
    (meetAll .skip faults).result ≠ .error (.unknownOperator token) := by
  rw [result_meetAll_skip]
  split
  · nofun
  next fault hf =>
    intro he
    obtain ⟨field, rfl⟩ := error_eq_unknownOperator.mp (Except.error.inj he)
    cases List.find?_some hf

/-- An unknown operator that comes first shows in the log. -/
theorem eq_nil_of_meetAll_skip (h : (meetAll .skip faults).result = .ok ())
    (hn : ∀ field token, .skippedOperator field token ∉ (meetAll .skip faults).events) :
    faults = [] := by
  cases faults with
  | nil => rfl
  | cons fault rest =>
    rw [meetAll_cons] at h hn
    cases fault with
    | unknown field token =>
      refine absurd ?_ (hn field token)
      rw [Outcome.events_bind_of_ok _ rfl]
      exact List.mem_cons_self
    | _ => cases h

end Meeting

end Fault

namespace Conditions

def scalarFaults (operator field : String) (value : Json) : List Fault :=
  if value.isScalar then [] else [.notScalar operator field value]

def memberFaults (token field : String) : Json → List Fault
  | .array items => items.flatMap (scalarFaults token field)
  | other => [.notList token field other]

mutual

def fieldFaults (field : String) : Json → List Fault
  | .object operators => testFaults field operators
  | .array _ => [.listValue field]
  | _ => []

def fieldsFaults (field : String) : List Json → List Fault
  | [] => []
  | item :: rest => fieldFaults field item ++ fieldsFaults field rest

/-- The operand of an unknown operator has no faults. -/
def testFaults (field : String) : List (String × Json) → List Fault
  | [] => []
  | (token, operand) :: rest =>
    (match Operator.ofToken? token with
      | none => [.unknown field token]
      | some (.compare comparison) => scalarFaults comparison.symbol field operand
      | some .like => scalarFaults "LIKE" field operand
      | some (.member _) => memberFaults token field operand
      | some (.group _) => itemFaults field operand) ++ testFaults field rest

def itemFaults (field : String) : Json → List Fault
  | .array items => fieldsFaults field items
  | .object operators => testFaults field operators
  | _ => []

end

mutual

/-- All faults, in the order of a walk that goes into every field before the next. -/
def faults : List (String × Json) → List Fault
  | [] => []
  | (key, value) :: rest =>
    (match Connective.ofKey? key with
      | some connective => groupFaults connective value
      | none => fieldFaults key value) ++ faults rest

def groupFaults (connective : Connective) : Json → List Fault
  | .object inner => faults inner
  | .array items => treeFaults connective items
  | other => [.groupShape connective other]

def treeFaults (connective : Connective) : List Json → List Fault
  | [] => []
  | .object inner :: rest => faults inner ++ treeFaults connective rest
  | other :: rest => .groupItem connective other :: treeFaults connective rest

end

end Conditions

/-- The faults are all that a reader can stop for: with any policy it meets them one after the
other, and where it gets to the end, its answer does not depend on the policy. -/
structure Meets {α : Type} (faults : List Fault) (read : UnknownOperators → Outcome α) : Prop where
  unspelled : ∀ field token, .unknown field token ∈ faults → Operator.ofToken? token = none
  answers : ∃ a, ∀ policy, read policy = Fault.meetAll policy faults >>= fun _ => pure a

namespace Meets

open Fault

variable {α β γ : Type} {faults more : List Fault}
  {read first : UnknownOperators → Outcome α} {second : UnknownOperators → Outcome β}

theorem done (a : α) : Meets [] fun _ => pure a where
  unspelled _ _ h := absurd h List.not_mem_nil
  answers := ⟨a, fun _ => rfl⟩

/-- What comes after a fault that is not passed over does not matter. -/
theorem fail (fault : Fault) (a : α) (h : fault.isUnknown = false) (hm : Meets more second) :
    Meets (fault :: more) fun _ => (.fail fault.error : Outcome α) where
  unspelled field token ht := by
    rcases List.mem_cons.mp ht with rfl | ht
    · cases h
    · exact hm.unspelled field token ht
  answers := by
    refine ⟨a, fun policy => ?_⟩
    rw [meetAll_cons, meet_of_known h]
    rfl

theorem passOver {field token : String} (ht : Operator.ofToken? token = none)
    (h : Meets faults read) : Meets (.unknown field token :: faults) fun policy =>
      Filter.passOver policy field token >>= fun _ => read policy where
  unspelled other key hm := by
    rcases List.mem_cons.mp hm with he | hm
    · cases he
      exact ht
    · exact h.unspelled other key hm
  answers := by
    obtain ⟨a, ha⟩ := h.answers
    refine ⟨a, fun policy => ?_⟩
    rw [ha, meetAll_cons, bind_assoc]
    rfl

theorem map (f : α → β) (h : Meets faults read) : Meets faults fun policy => f <$> read policy where
  unspelled := h.unspelled
  answers := by
    obtain ⟨a, ha⟩ := h.answers
    refine ⟨f a, fun policy => ?_⟩
    rw [ha, map_bind]
    rfl

/-- The faults of the first part come before those of the second. -/
theorem both (f : α → β → γ) (h : Meets faults first) (hm : Meets more second) :
    Meets (faults ++ more) fun policy =>
      first policy >>= fun a => second policy >>= fun b => pure (f a b) where
  unspelled field token ht := by
    rcases List.mem_append.mp ht with ht | ht
    · exact h.unspelled field token ht
    · exact hm.unspelled field token ht
  answers := by
    obtain ⟨a, ha⟩ := h.answers
    obtain ⟨b, hb⟩ := hm.answers
    refine ⟨f a b, fun policy => ?_⟩
    simp only [ha, hb, meetAll_append, bind_assoc, pure_bind]

end Meets

theorem Outcome.ofExcept_bind {α β : Type} (x : Except Error α) (f : α → Except Error β) :
    ofExcept (x >>= f) = ofExcept x >>= fun a => ofExcept (f a) := by
  cases x <;> rfl

namespace Conditions

variable {name : String}

theorem meets_scalar (operator : String) (value : Json) :
    Meets (scalarFaults operator name value)
      fun _ => Outcome.ofExcept (Filter.readScalar operator name value) := by
  cases value with
  | array _ | object _ => exact .fail (.notScalar operator name _) .null rfl (.done ())
  | _ => exact .done _

theorem meets_scalars (operator : String) (items : List Json) :
    Meets (items.flatMap (scalarFaults operator name))
      fun _ => Outcome.ofExcept (Filter.readScalars operator name items) := by
  induction items with
  | nil => exact .done []
  | cons item rest ih =>
    simp only [List.flatMap_cons, Filter.readScalars, Outcome.ofExcept_bind]
    exact (meets_scalar operator item).both List.cons ih

theorem meets_member {negated : Bool} (token : String) (operand : Json) :
    Meets (memberFaults token name operand)
      fun _ => Outcome.ofExcept (Filter.readMember negated token name operand) := by
  cases operand with
  | array items =>
    simp only [memberFaults, Filter.readMember, Outcome.ofExcept_bind]
    exact (meets_scalars token items).map fun values => Test.member values negated
  | _ => exact .fail (.notList token name _) (.member [] negated) rfl (.done ())

mutual

-- By induction on the JSON, one walk beside each reader.
theorem meets_field : ∀ value : Json,
    Meets (fieldFaults name value) fun policy => Filter.readField policy name value
  | .object operators => by
    simp only [fieldFaults, Filter.readField]
    exact (meets_tests operators).map Requirement.tests
  | .array _ => by
    simp only [fieldFaults, Filter.readField]
    exact .fail (.listValue name) (.tests []) rfl (.done ())
  | .null | .bool _ | .number _ | .string _ => by
    simp only [fieldFaults, Filter.readField]
    exact .done _

theorem meets_fields : ∀ items : List Json,
    Meets (fieldsFaults name items) fun policy => Filter.readFields policy name items
  | [] => by
    simp only [fieldsFaults, Filter.readFields]
    exact .done []
  | item :: rest => by
    simp only [fieldsFaults, Filter.readFields]
    exact (meets_field item).both List.cons (meets_fields rest)

theorem meets_tests : ∀ operators : List (String × Json),
    Meets (testFaults name operators) fun policy => Filter.readTests policy name operators
  | [] => by
    simp only [testFaults, Filter.readTests]
    exact .done []
  | (token, operand) :: rest => by
    rw [testFaults]
    cases ho : Operator.ofToken? token with
    | none =>
      simp only [Filter.readTests, ho]
      exact .passOver ho (meets_tests rest)
    | some operator =>
      simp only [Filter.readTests_cons ho]
      refine .both List.cons ?_ (meets_tests rest)
      cases operator with
      | compare comparison => exact (meets_scalar _ operand).map (Test.compare comparison)
      | like => exact (meets_scalar _ operand).map Test.like
      | member negated => exact meets_member token operand
      | group connective =>
        simp only [Filter.readTest]
        exact (meets_items operand).map (Test.group connective)

theorem meets_items : ∀ operand : Json,
    Meets (itemFaults name operand) fun policy => Filter.readItems policy name operand
  | .array items => by
    simp only [itemFaults, Filter.readItems]
    exact meets_fields items
  | .object operators => by
    simp only [itemFaults, Filter.readItems]
    exact (meets_tests operators).map fun tests => [Requirement.tests tests]
  | .null | .bool _ | .number _ | .string _ => by
    simp only [itemFaults, Filter.readItems]
    exact .done _

end

mutual

/-- A condition object is read up to the first fault that counts. -/
theorem meets_read : ∀ conditions : List (String × Json),
    Meets (faults conditions) fun policy => Filter.read policy conditions
  | [] => by
    simp only [faults, Filter.read]
    exact .done []
  | (key, value) :: rest => by
    simp only [faults, Filter.read_cons, Filter.readEntry]
    refine .both List.cons ?_ (meets_read rest)
    cases Connective.ofKey? key with
    | none => exact (meets_field value).map (Entry.field key)
    | some connective => exact meets_group connective value

theorem meets_group (connective : Connective) : ∀ value : Json,
    Meets (groupFaults connective value) fun policy => Filter.readGroup policy connective value
  | .object fields => by
    simp only [groupFaults, Filter.readGroup]
    exact (meets_read fields).map (Entry.nested connective)
  | .array items => by
    simp only [groupFaults, Filter.readGroup]
    exact (meets_each connective items).map (Entry.each connective)
  | .null | .bool _ | .number _ | .string _ => by
    simp only [groupFaults, Filter.readGroup]
    exact .fail (.groupShape connective _) (.each connective []) rfl (.done ())

theorem meets_each (connective : Connective) : ∀ items : List Json,
    Meets (treeFaults connective items) fun policy => Filter.readEach policy connective items
  | [] => by
    simp only [treeFaults, Filter.readEach]
    exact .done []
  | .object fields :: rest => by
    simp only [treeFaults, Filter.readEach]
    exact (meets_read fields).both List.cons (meets_each connective rest)
  | .null :: rest | .bool _ :: rest | .number _ :: rest | .string _ :: rest | .array _ :: rest => by
    simp only [treeFaults, Filter.readEach]
    exact .fail (.groupItem connective _) [] rfl (meets_each connective rest)

end

end Conditions

namespace Meets

open Fault

variable {α : Type} {faults : List Fault} {read : UnknownOperators → Outcome α}
  {policy : UnknownOperators} {error : Error}

theorem result_eq_error_iff (h : Meets faults read) :
    (read policy).result = .error error ↔ (meetAll policy faults).result = .error error := by
  obtain ⟨a, ha⟩ := h.answers
  rw [ha, Outcome.result_bind]
  cases (meetAll policy faults).result with
  | ok _ => exact ⟨nofun, nofun⟩
  | error _ => simp only [bind, Except.bind, Except.error.injEq]

theorem reject_eq_ok_iff (h : Meets faults read) {a : α} : (read .reject).result = .ok a ↔
    (read .skip).result = .ok a ∧
      ∀ field token, .skippedOperator field token ∉ (read .skip).events := by
  obtain ⟨b, hb⟩ := h.answers
  constructor
  · intro hr
    cases faults with
    | nil =>
      rw [hb] at hr
      rw [hb]
      exact ⟨hr, fun _ _ => List.not_mem_nil⟩
    | cons fault later =>
      rw [h.result_eq_error_iff.mpr (result_meetAll_reject fault later)] at hr
      cases hr
  · rintro ⟨hs, hn⟩
    rw [hb, Outcome.result_bind, Error.bind_eq_ok] at hs
    obtain ⟨_, hm, he⟩ := hs
    rw [hb, Outcome.events_bind_of_ok _ hm, Outcome.events_pure, List.append_nil] at hn
    obtain rfl := eq_nil_of_meetAll_skip hm hn
    rw [hb]
    exact he

theorem eq_cons_of_reject (h : Meets faults read) {token : String}
    (hr : (read .reject).result = .error (.unknownOperator token)) :
    ∃ field later, faults = .unknown field token :: later := by
  rw [h.result_eq_error_iff] at hr
  cases faults with
  | nil => cases hr
  | cons fault later =>
    rw [result_meetAll_reject] at hr
    obtain ⟨field, rfl⟩ := error_eq_unknownOperator.mp (Except.error.inj hr)
    exact ⟨field, later, rfl⟩

theorem reject_of_skip (h : Meets faults read) (hs : (read .skip).result = .error error) :
    (read .reject).result = .error error ∨
      ∃ token, (read .reject).result = .error (.unknownOperator token) := by
  rw [h.result_eq_error_iff] at hs
  simp only [h.result_eq_error_iff]
  cases faults with
  | nil => cases hs
  | cons fault later =>
    rw [result_meetAll_reject]
    cases hf : fault.isUnknown with
    | false =>
      rw [meetAll_cons, meet_of_known hf] at hs
      exact .inl hs
    | true =>
      cases fault with
      | unknown field token => exact .inr ⟨token, rfl⟩
      | _ => cases hf

end Meets

/-- A reader that rejects unknown operators answers exactly where one that skips them finds none,
and then in the same way. It stops at an unknown operator only if there is no fault before that, and
one that skips them stops for other faults only. -/
theorem Filter.policies_agree (conditions : Fields) :
    let skip := Filter.read .skip conditions
    let reject := Filter.read .reject conditions
    (∀ filter, reject.result = .ok filter ↔
      skip.result = .ok filter ∧ ∀ field token, .skippedOperator field token ∉ skip.events) ∧
    (∀ token, reject.result = .error (.unknownOperator token) →
      (∀ operator, ¬ Operator.Spells token operator) ∧
        ∃ field later, Conditions.faults conditions = .unknown field token :: later) ∧
    (∀ error, skip.result = .error error → reject.result = .error error ∨
      ∃ token, reject.result = .error (.unknownOperator token)) ∧
    ∀ token, skip.result ≠ .error (.unknownOperator token) := by
  intro skip reject
  have h := Conditions.meets_read conditions
  refine ⟨fun _ => h.reject_eq_ok_iff, fun token hr => ?_, fun _ => h.reject_of_skip,
    fun token hs => ?_⟩
  · obtain ⟨field, later, hf⟩ := h.eq_cons_of_reject hr
    have ht := h.unspelled field token (by rw [hf]; exact List.mem_cons_self)
    exact ⟨Operator.ofToken?_eq_none_iff.mp ht, field, later, hf⟩
  · exact Fault.meetAll_skip_ne_unknownOperator _ token (h.result_eq_error_iff.mp hs)

example : Conditions.faults [("a", .object [("$near", .array []), ("$gt", .array [])]),
    ("$or", .array [.null, .object [("b", .object [("$in", .bool true)])]])] =
    [.unknown "a" "$near", .notScalar ">" "a" (.array []), .groupItem .or .null,
      .notList "$in" "b" (.bool true)] := rfl

end JsonSelect
