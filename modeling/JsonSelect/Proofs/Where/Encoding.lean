import JsonSelect.Proofs.Json.Fields
import JsonSelect.Proofs.Where.Leaves

/-! Filters written as JSON objects. The reader gives a written filter back, when it can be written
at all: an object has no place for bytes, nor for one key twice. -/
namespace JsonSelect

def Literal.isBytes : Literal → Bool
  | bytes _ => true
  | _ => false

/-- The JSON that is read as the value. There is none for bytes, and null stands in their place. -/
def Literal.toJson : Literal → Json
  | null | bytes _ => .null
  | bool value => .bool value
  | number value => .number value
  | text value => .string value

def Test.operator : Test → Operator
  | compare comparison _ => .compare comparison
  | like _ => .like
  | member _ negated => .member negated
  | group connective _ => .group connective

mutual

/-- A bare value stays a scalar. Tests become an object with a key for each. -/
def Requirement.toJson : Requirement → Json
  | .equals value => value.toJson
  | .tests tests => .object (Fields.ofList (Test.members tests))

def Requirement.toJsons : List Requirement → List Json
  | [] => []
  | item :: rest => item.toJson :: Requirement.toJsons rest

/-- The items of a group are a list, even a single one. -/
def Test.operand : Test → Json
  | .compare _ value => value.toJson
  | .like operand => operand.toJson
  | .member values _ => .array (values.map Literal.toJson)
  | .group _ items => .array (Requirement.toJsons items)

def Test.members : List Test → Fields
  | [] => []
  | test :: rest => (test.operator.token, test.operand) :: Test.members rest

end

/-- The key that an entry stands under. -/
def Entry.key : Entry → String
  | .nested connective _ | .each connective _ => connective.key
  | .field name _ => name

mutual

/-- A nested filter becomes an object and a list of filters an array of objects. -/
def Entry.toJson : Entry → Json
  | .nested _ filter => .object (Fields.ofList (Filter.members filter))
  | .each _ filters => .array (Filter.toJsons filters)
  | .field _ requirement => requirement.toJson

def Filter.members : List Entry → Fields
  | [] => []
  | entry :: rest => (entry.key, entry.toJson) :: Filter.members rest

def Filter.toJsons : List (List Entry) → List Json
  | [] => []
  | filter :: rest => .object (Fields.ofList (Filter.members filter)) :: Filter.toJsons rest

end

/-- The object that describes the filter. -/
def Filter.toFields (filter : Filter) : Fields := Fields.ofList (Filter.members filter)

mutual

/-- No value is bytes, and no two tests of one list share a token. -/
inductive Requirement.HasJson : Requirement → Prop where
  | equals {value : Literal} (h : value.isBytes = false) : Requirement.HasJson (.equals value)
  | tests {tests : List Test} (hd : (tests.map fun test => test.operator.token).Nodup)
    (h : ∀ test ∈ tests, Test.HasJson test) : Requirement.HasJson (.tests tests)

inductive Test.HasJson : Test → Prop where
  | compare {comparison : Comparison} {value : Literal} (h : value.isBytes = false) :
    Test.HasJson (.compare comparison value)
  | like {operand : Literal} (h : operand.isBytes = false) : Test.HasJson (.like operand)
  | member {values : List Literal} {negated : Bool} (h : ∀ value ∈ values, value.isBytes = false) :
    Test.HasJson (.member values negated)
  | group {connective : Connective} {items : List Requirement}
    (h : ∀ item ∈ items, Requirement.HasJson item) : Test.HasJson (.group connective items)

end

mutual

/-- A field is not named like a connective. -/
inductive Entry.HasJson : Entry → Prop where
  | nested {connective : Connective} {filter : Filter} (h : Filter.HasJson filter) :
    Entry.HasJson (.nested connective filter)
  | each {connective : Connective} {filters : List Filter}
    (h : ∀ filter ∈ filters, Filter.HasJson filter) : Entry.HasJson (.each connective filters)
  | field {name : String} {requirement : Requirement}
    (hn : ∀ connective : Connective, name ≠ connective.key) (h : requirement.HasJson) :
    Entry.HasJson (.field name requirement)

/-- Each connective has one entry at most, and so has each field. -/
inductive Filter.HasJson : Filter → Prop where
  | mk {filter : Filter} (hd : (List.map Entry.key filter).Nodup)
    (h : ∀ entry ∈ filter, Entry.HasJson entry) : Filter.HasJson filter

end

section Members

variable {tests : List Test} {filter : Filter}

theorem Test.keys_members (tests : List Test) :
    (Test.members tests).map Prod.fst = tests.map fun test => test.operator.token := by
  induction tests with
  | nil => rfl
  | cons test rest ih => rw [Test.members, List.map_cons, List.map_cons, ih]

/-- As an object, tests with distinct tokens keep their order. -/
theorem Test.ofList_members (hd : (tests.map fun test => test.operator.token).Nodup) :
    Fields.ofList (Test.members tests) = Test.members tests :=
  Fields.ofList_of_nodup (by rwa [Test.keys_members])

theorem Filter.keys_members (filter : Filter) :
    (Filter.members filter).map Prod.fst = List.map Entry.key filter := by
  induction filter with
  | nil => rfl
  | cons entry rest ih => rw [Filter.members, List.map_cons, List.map_cons, ih]

theorem Filter.ofList_members (hd : (List.map Entry.key filter).Nodup) :
    Fields.ofList (Filter.members filter) = Filter.members filter :=
  Fields.ofList_of_nodup (by rwa [Filter.keys_members])

end Members

section Reading

variable {policy : UnknownOperators} {name : String}

theorem readScalar_toJson (operator : String) {value : Literal} (h : value.isBytes = false) :
    Filter.readScalar operator name value.toJson = .ok value := by
  cases value with
  | bytes _ => cases h
  | _ => rfl

theorem readScalars_toJson (operator : String) {values : List Literal}
    (h : ∀ value ∈ values, value.isBytes = false) :
    Filter.readScalars operator name (values.map Literal.toJson) = .ok values := by
  induction values with
  | nil => rfl
  | cons value rest ih =>
    obtain ⟨hv, hr⟩ := List.forall_mem_cons.mp h
    rw [List.map_cons, Filter.readScalars, readScalar_toJson operator hv, ih hr]
    rfl

theorem readField_scalar {value : Literal} (h : value.isBytes = false) :
    Filter.readField policy name value.toJson = pure (.equals value) := by
  cases value with
  | bytes _ => cases h
  | _ => rfl

mutual

/-- Every shape of what is written leads the reader back to the constructor that it came from. -/
theorem readField_toJson : ∀ requirement : Requirement, requirement.HasJson →
    Filter.readField policy name requirement.toJson = pure requirement
  | .equals value, h => by
    cases h with
    | equals h => exact readField_scalar h
  | .tests tests, h => by
    cases h with
    | tests hd h =>
      rw [Requirement.toJson, Test.ofList_members hd, Filter.readField, readTests_members tests h,
        map_pure]

theorem readFields_toJsons : ∀ items : List Requirement, (∀ item ∈ items, item.HasJson) →
    Filter.readFields policy name (Requirement.toJsons items) = pure items
  | [], _ => rfl
  | item :: rest, h => by
    obtain ⟨hi, hr⟩ := List.forall_mem_cons.mp h
    rw [Requirement.toJsons, Filter.readFields, readField_toJson item hi, readFields_toJsons rest hr]
    simp only [pure_bind]

theorem readTest_operand : ∀ test : Test, test.HasJson →
    Filter.readTest policy name test.operator.token test.operand test.operator = pure test
  | .compare comparison value, h => by
    cases h with
    | compare h =>
      simp only [Test.operator, Test.operand, Filter.readTest, readScalar_toJson _ h]
      rfl
  | .like operand, h => by
    cases h with
    | like h =>
      simp only [Test.operator, Test.operand, Filter.readTest, readScalar_toJson _ h]
      rfl
  | .member values negated, h => by
    cases h with
    | member h =>
      simp only [Test.operator, Test.operand, Filter.readTest, Filter.readMember,
        readScalars_toJson _ h]
      rfl
  | .group connective items, h => by
    cases h with
    | group h =>
      simp only [Test.operator, Test.operand, Filter.readTest, Filter.readItems,
        readFields_toJsons items h, map_pure]

theorem readTests_members : ∀ tests : List Test, (∀ test ∈ tests, test.HasJson) →
    Filter.readTests policy name (Test.members tests) = pure tests
  | [], _ => rfl
  | test :: rest, h => by
    obtain ⟨ht, hr⟩ := List.forall_mem_cons.mp h
    rw [Test.members, Filter.readTests_cons (Operator.ofToken?_token _), readTest_operand test ht,
      pure_bind, readTests_members rest hr, pure_bind]

end

mutual

theorem readEntry_toJson : ∀ entry : Entry, entry.HasJson →
    Filter.readEntry policy entry.key entry.toJson = pure entry
  | .nested connective filter, h => by
    cases h with
    | nested h =>
      obtain ⟨hd, h⟩ := h
      simp only [Filter.readEntry, Entry.key, Connective.ofKey?_key, Entry.toJson,
        Filter.ofList_members hd, Filter.readGroup, read_members filter h, map_pure]
  | .each connective filters, h => by
    cases h with
    | each h =>
      simp only [Filter.readEntry, Entry.key, Connective.ofKey?_key, Entry.toJson,
        Filter.readGroup, readEach_toJsons filters h, map_pure]
  | .field name requirement, h => by
    cases h with
    | field hn h =>
      simp only [Filter.readEntry, Entry.key, Connective.ofKey?_of_ne hn, Entry.toJson,
        readField_toJson requirement h, map_pure]

theorem read_members : ∀ filter : List Entry, (∀ entry ∈ filter, entry.HasJson) →
    Filter.read policy (Filter.members filter) = pure filter
  | [], _ => rfl
  | entry :: rest, h => by
    obtain ⟨he, hr⟩ := List.forall_mem_cons.mp h
    rw [Filter.members, Filter.read_cons, readEntry_toJson entry he, pure_bind,
      read_members rest hr, pure_bind]

theorem readEach_toJsons {connective : Connective} : ∀ filters : List (List Entry),
    (∀ filter ∈ filters, Filter.HasJson filter) →
    Filter.readEach policy connective (Filter.toJsons filters) = pure filters
  | [], _ => rfl
  | filter :: rest, h => by
    obtain ⟨⟨hd, hf⟩, hr⟩ := List.forall_mem_cons.mp h
    rw [Filter.toJsons, Filter.ofList_members hd, Filter.readEach, read_members filter hf, pure_bind,
      readEach_toJsons rest hr, pure_bind]

end

end Reading

/-- Whatever is done about unknown operators, a filter that can be written is read back from its
object, and nothing goes to the log. -/
theorem Filter.read_toFields {filter : Filter} (policy : UnknownOperators)
    (h : Filter.HasJson filter) : Filter.read policy filter.toFields = pure filter := by
  obtain ⟨hd, h⟩ := h
  rw [Filter.toFields, Filter.ofList_members hd, read_members filter h]

theorem Filter.read_toFields_mixed :
    let filter : Filter := [
      .each .or [[], [.field "a" (.equals .null), .nested .and []]],
      .field "$AND" (.tests [.compare .neq (.text "x"), .member [.ofInt 1, .null] true, .like .null,
        .group .or [.equals (.bool true), .tests []], .group .and []]),
      .field "b" (.equals (.text ""))]
    Filter.HasJson filter ∧ Filter.read .reject filter.toFields = pure filter := by
  intro filter
  have hn : ∀ name ∈ ["a", "b", "$AND"], ∀ connective : Connective, name ≠ connective.key := by
    intro name hm connective
    cases connective <;> revert name <;> decide
  have ha : Filter.HasJson [.field "a" (.equals .null), .nested .and []] := by
    refine .mk (by decide) ?_
    simp only [List.forall_mem_cons]
    exact ⟨.field (hn _ (by simp)) (.equals rfl), .nested (.mk (by decide) (by simp)), by simp⟩
  have ht : Requirement.HasJson (.tests [.compare .neq (.text "x"),
      .member [.ofInt 1, .null] true, .like .null, .group .or [.equals (.bool true), .tests []],
      .group .and []]) := by
    refine .tests (by decide) ?_
    simp only [List.forall_mem_cons]
    refine ⟨.compare rfl, .member (by decide), .like rfl, .group ?_, .group (by simp), by simp⟩
    simp only [List.forall_mem_cons]
    exact ⟨.equals rfl, .tests (by decide) (by simp), by simp⟩
  have h : Filter.HasJson filter := by
    refine .mk (by decide) ?_
    simp only [filter, List.forall_mem_cons]
    refine ⟨.each ?_, .field (hn _ (by simp)) ht, .field (hn _ (by simp)) (.equals rfl), by simp⟩
    simp only [List.forall_mem_cons]
    exact ⟨.mk (by decide) (by simp), ha, by simp⟩
  exact ⟨h, Filter.read_toFields .reject h⟩

end JsonSelect
