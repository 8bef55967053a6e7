import JsonSelect.Proofs.Outcome
import JsonSelect.Proofs.Where.Conditions

/-! The leaves of a condition object, and what becomes of them when it is read. -/
namespace JsonSelect

/-- What a condition object asks of one field at one place: a comparison, with `=` for a bare value,
or another operator that takes no further conditions. An operand is `none` where it has not the
shape that its operator takes. The operand of an unknown operator is not looked at. -/
inductive Leaf where
  | compare (field : String) (comparison : Comparison) (value : Option Literal)
  | like (field : String) (operand : Option Literal)
  | member (field : String) (negated : Bool) (values : Option (List Literal))
  | unknown (field token : String)

namespace Leaf

def isUnknown : Leaf → Bool
  | unknown _ _ => true
  | _ => false

/-- A pattern of bytes. -/
def isBinary : Leaf → Bool
  | like _ (some (.bytes _)) => true
  | _ => false

/-- The event for an unknown operator. -/
def skipped? : Leaf → Option Event
  | unknown field token => some (.skippedOperator field token)
  | _ => none

end Leaf

/-- The values of a list that holds nothing else. -/
def Json.literals? : Json → Option (List Literal)
  | .array items => items.mapM Literal.ofJson?
  | _ => none

namespace Conditions

mutual

def fieldLeaves (field : String) : Json → List Leaf
  | .object operators => testLeaves field operators
  | value => [.compare field .eq (Literal.ofJson? value)]

def fieldsLeaves (field : String) : List Json → List Leaf
  | [] => []
  | item :: rest => fieldLeaves field item ++ fieldsLeaves field rest

def testLeaves (field : String) : List (String × Json) → List Leaf
  | [] => []
  | (token, operand) :: rest =>
    (match Operator.ofToken? token with
      | none => [.unknown field token]
      | some (.compare comparison) => [.compare field comparison (Literal.ofJson? operand)]
      | some .like => [.like field (Literal.ofJson? operand)]
      | some (.member negated) => [.member field negated operand.literals?]
      | some (.group _) => itemLeaves field operand) ++ testLeaves field rest

def itemLeaves (field : String) : Json → List Leaf
  | .array items => fieldsLeaves field items
  | .object operators => testLeaves field operators
  | value => [.compare field .eq (Literal.ofJson? value)]

end

mutual

/-- The leaves in the order of a walk that goes into every field before the next. -/
def leaves : List (String × Json) → List Leaf
  | [] => []
  | (key, value) :: rest =>
    (match Connective.ofKey? key with
      | some _ => groupLeaves value
      | none => fieldLeaves key value) ++ leaves rest

def groupLeaves : Json → List Leaf
  | .object inner => leaves inner
  | .array list => treeLeaves list
  | _ => []

def treeLeaves : List Json → List Leaf
  | [] => []
  | .object inner :: rest => leaves inner ++ treeLeaves rest
  | _ :: rest => treeLeaves rest

end

end Conditions

mutual

def Requirement.leaves (field : String) : Requirement → List Leaf
  | .equals value => [.compare field .eq (some value)]
  | .tests tests => Test.allLeaves field tests

def Requirement.allLeaves (field : String) : List Requirement → List Leaf
  | [] => []
  | item :: rest => item.leaves field ++ Requirement.allLeaves field rest

def Test.leaves (field : String) : Test → List Leaf
  | .compare comparison value => [.compare field comparison (some value)]
  | .like operand => [.like field (some operand)]
  | .member values negated => [.member field negated (some values)]
  | .group _ items => Requirement.allLeaves field items

def Test.allLeaves (field : String) : List Test → List Leaf
  | [] => []
  | test :: rest => test.leaves field ++ Test.allLeaves field rest

end

mutual

def Entry.leaves : Entry → List Leaf
  | .nested _ filter => Filter.leaves filter
  | .each _ filters => Filter.allLeaves filters
  | .field name requirement => requirement.leaves name

def Filter.leaves : List Entry → List Leaf
  | [] => []
  | entry :: rest => entry.leaves ++ Filter.leaves rest

def Filter.allLeaves : List (List Entry) → List Leaf
  | [] => []
  | filter :: rest => Filter.leaves filter ++ Filter.allLeaves rest

end

namespace Filter

variable {policy : UnknownOperators} {name key token : String} {operand value : Json}
  {operator : Operator} {rest : List (String × Json)}

/-- One operator of a map. -/
def readTest (policy : UnknownOperators) (name token : String) (operand : Json) :
    Operator → Outcome Test
  | .compare comparison => Test.compare comparison <$> readScalar comparison.symbol name operand
  | .like => Test.like <$> readScalar "LIKE" name operand
  | .member negated => readMember negated token name operand
  | .group connective => Test.group connective <$> readItems policy name operand

theorem readTests_cons (h : Operator.ofToken? token = some operator) :
    readTests policy name ((token, operand) :: rest) =
      readTest policy name token operand operator >>= fun test =>
        readTests policy name rest >>= fun tests => pure (test :: tests) := by
  rw [readTests, h]
  cases operator <;> rfl

/-- One member of a condition object. -/
def readEntry (policy : UnknownOperators) (key : String) (value : Json) : Outcome Entry :=
  match Connective.ofKey? key with
  | some connective => readGroup policy connective value
  | none => Entry.field key <$> readField policy key value

theorem read_cons : read policy ((key, value) :: rest) =
    readEntry policy key value >>= fun entry =>
      read policy rest >>= fun entries => pure (entry :: entries) := by
  rw [read, readEntry]
  cases Connective.ofKey? key <;> rfl

end Filter

/-- Unknown leaves go to the log, one event for each, and all the others stay. They have no bytes,
which no JSON value holds. -/
structure Sifts (leaves : List Leaf) (events : List Event) (kept : List Leaf) : Prop where
  events_eq : events = leaves.filterMap Leaf.skipped?
  kept_eq : kept = leaves.filter (!·.isUnknown)
  no_bytes : ∀ leaf ∈ kept, leaf.isBinary = false

namespace Sifts

variable {leaves more kept others : List Leaf} {events later : List Event} {leaf : Leaf}

theorem nil : Sifts [] [] [] := ⟨rfl, rfl, by simp⟩

theorem skip (field token : String) :
    Sifts [.unknown field token] [.skippedOperator field token] [] := ⟨rfl, rfl, by simp⟩

theorem keep (h : leaf.isUnknown = false) (hb : leaf.isBinary = false) :
    Sifts [leaf] [] [leaf] := by
  have hk : ∀ other ∈ [leaf], other.isBinary = false := by simpa using hb
  cases leaf with
  | unknown field token => cases h
  | _ => exact ⟨rfl, rfl, hk⟩

theorem append (h : Sifts leaves events kept) (hm : Sifts more later others) :
    Sifts (leaves ++ more) (events ++ later) (kept ++ others) where
  events_eq := by rw [h.events_eq, hm.events_eq, List.filterMap_append]
  kept_eq := by rw [h.kept_eq, hm.kept_eq, List.filter_append]
  no_bytes := List.forall_mem_append.mpr ⟨h.no_bytes, hm.no_bytes⟩

end Sifts

namespace Conditions

variable {name : String} {events : List Event}

theorem mapM_of_readScalars {operator : String} {list : List Json} {values : List Literal}
    (h : Filter.readScalars operator name list = .ok values) :
    list.mapM Literal.ofJson? = some values := by
  induction list generalizing values with
  | nil =>
    cases h
    rfl
  | cons item rest ih =>
    simp only [Filter.readScalars, Error.bind_eq_ok] at h
    obtain ⟨value, hv, more, hm, he⟩ := h
    cases he
    simp [List.mapM_cons, readScalar_eq_ok hv, ih hm]

theorem sifts_member {negated : Bool} {token : String} {operand : Json} {test : Test}
    (h : Filter.readMember negated token name operand = .ok test) :
    Sifts [.member name negated operand.literals?] [] (test.leaves name) := by
  cases operand with
  | array list =>
    simp only [Filter.readMember, Error.bind_eq_ok] at h
    obtain ⟨values, hv, he⟩ := h
    cases he
    rw [Json.literals?, mapM_of_readScalars hv]
    exact .keep rfl rfl
  | _ => cases h

/-- A value that is read becomes the leaf that it is. -/
theorem sifts_scalar {operator : String} {value : Json} {literal : Literal}
    (h : Filter.readScalar operator name value = .ok literal) :
    Sifts [.compare name .eq (Literal.ofJson? value)] [] [.compare name .eq (some literal)] := by
  rw [readScalar_eq_ok h]
  exact .keep rfl rfl

theorem sifts_like {operator : String} {operand : Json} {literal : Literal}
    (h : Filter.readScalar operator name operand = .ok literal) :
    Sifts [.like name (Literal.ofJson? operand)] [] [.like name (some literal)] := by
  have hl := readScalar_eq_ok h
  rw [hl]
  refine .keep rfl ?_
  cases operand <;> cases hl <;> rfl

mutual

-- By induction on the JSON. The events of a list are those of its first item before those of the
-- rest, as the leaves are, so that every case is an `append`.
theorem sifts_field : ∀ {value : Json} {events : List Event} {requirement : Requirement},
    Filter.readField .skip name value = ⟨events, .ok requirement⟩ →
    Sifts (fieldLeaves name value) events (requirement.leaves name)
  | .object operators, events, requirement, h => by
    rw [Filter.readField, Outcome.map_eq_ok] at h
    obtain ⟨tests, ht, rfl⟩ := h
    rw [fieldLeaves, Requirement.leaves]
    exact sifts_tests ht
  | .array _, events, requirement, h => by
    cases h
  | .null, events, requirement, h | .bool _, events, requirement, h
  | .number _, events, requirement, h | .string _, events, requirement, h => by
    simp only [Filter.readField, Outcome.liftM_eq, Outcome.map_eq_ok, Outcome.ofExcept_eq_ok] at h
    obtain ⟨literal, ⟨rfl, hl⟩, rfl⟩ := h
    simp only [fieldLeaves, Requirement.leaves]
    exact sifts_scalar hl

theorem sifts_fields : ∀ {list : List Json} {events : List Event} {requirements : List Requirement},
    Filter.readFields .skip name list = ⟨events, .ok requirements⟩ →
    Sifts (fieldsLeaves name list) events (Requirement.allLeaves name requirements)
  | [], events, requirements, h => by
    rw [Filter.readFields, Outcome.pure_eq_ok] at h
    obtain ⟨rfl, rfl⟩ := h
    exact .nil
  | item :: rest, events, requirements, h => by
    simp only [Filter.readFields, Outcome.bind_eq_ok, Outcome.pure_eq_ok] at h
    obtain ⟨first, requirement, _, hr, ⟨later, more, _, hm, ⟨rfl, rfl⟩, rfl⟩, rfl⟩ := h
    rw [List.append_nil, fieldsLeaves, Requirement.allLeaves]
    exact (sifts_field hr).append (sifts_fields hm)

theorem sifts_tests : ∀ {operators : List (String × Json)} {events : List Event}
    {tests : List Test}, Filter.readTests .skip name operators = ⟨events, .ok tests⟩ →
    Sifts (testLeaves name operators) events (Test.allLeaves name tests)
  | [], events, tests, h => by
    rw [Filter.readTests, Outcome.pure_eq_ok] at h
    obtain ⟨rfl, rfl⟩ := h
    exact .nil
  | (token, operand) :: rest, events, tests, h => by
    rw [testLeaves]
    cases ho : Operator.ofToken? token with
    | none =>
      rw [Filter.readTests, ho] at h
      obtain ⟨_, _, later, he, hm, rfl⟩ := Outcome.bind_eq_ok.mp h
      obtain rfl := Outcome.emit_eq_ok.mp he
      exact (Sifts.skip name token).append (sifts_tests hm)
    | some operator =>
      simp only [Filter.readTests_cons ho, Outcome.bind_eq_ok, Outcome.pure_eq_ok] at h
      obtain ⟨first, test, _, ht, ⟨later, more, _, hm, ⟨rfl, rfl⟩, rfl⟩, rfl⟩ := h
      rw [List.append_nil, Test.allLeaves]
      refine .append ?_ (sifts_tests hm)
      cases operator with
      | compare comparison =>
        simp only [Filter.readTest, Outcome.liftM_eq, Outcome.map_eq_ok,
          Outcome.ofExcept_eq_ok] at ht
        obtain ⟨literal, ⟨rfl, hl⟩, rfl⟩ := ht
        rw [readScalar_eq_ok hl]
        exact .keep rfl rfl
      | like =>
        simp only [Filter.readTest, Outcome.liftM_eq, Outcome.map_eq_ok,
          Outcome.ofExcept_eq_ok] at ht
        obtain ⟨literal, ⟨rfl, hl⟩, rfl⟩ := ht
        exact sifts_like hl
      | member negated =>
        obtain ⟨rfl, hr⟩ := Outcome.ofExcept_eq_ok.mp ht
        exact sifts_member hr
      | group connective =>
        obtain ⟨items, hi, rfl⟩ := Outcome.map_eq_ok.mp ht
        rw [Test.leaves]
        exact sifts_items hi

theorem sifts_items : ∀ {operand : Json} {events : List Event} {items : List Requirement},
    Filter.readItems .skip name operand = ⟨events, .ok items⟩ →
    Sifts (itemLeaves name operand) events (Requirement.allLeaves name items)
  | .array list, events, items, h => by
    rw [Filter.readItems] at h
    rw [itemLeaves]
    exact sifts_fields h
  | .object operators, events, items, h => by
    simp only [Filter.readItems, Outcome.bind_eq_ok, Outcome.pure_eq_ok] at h
    obtain ⟨first, tests, _, ht, ⟨rfl, rfl⟩, rfl⟩ := h
    simp only [itemLeaves, Requirement.allLeaves, Requirement.leaves, List.append_nil]
    exact sifts_tests ht
  | .null, events, items, h | .bool _, events, items, h
  | .number _, events, items, h | .string _, events, items, h => by
    simp only [Filter.readItems, Outcome.bind_eq_ok, Outcome.liftM_eq, Outcome.ofExcept_eq_ok,
      Outcome.pure_eq_ok] at h
    obtain ⟨_, literal, _, ⟨rfl, hl⟩, ⟨rfl, rfl⟩, rfl⟩ := h
    simp only [itemLeaves, Requirement.allLeaves, Requirement.leaves, List.append_nil]
    exact sifts_scalar hl

end

mutual

theorem sifts_entries : ∀ {conditions : List (String × Json)} {events : List Event}
    {filter : Filter}, Filter.read .skip conditions = ⟨events, .ok filter⟩ →
    Sifts (leaves conditions) events (Filter.leaves filter)
  | [], events, filter, h => by
    rw [Filter.read, Outcome.pure_eq_ok] at h
    obtain ⟨rfl, rfl⟩ := h
    exact .nil
  | (key, value) :: rest, events, filter, h => by
    simp only [Filter.read_cons, Outcome.bind_eq_ok, Outcome.pure_eq_ok] at h
    obtain ⟨first, entry, _, he, ⟨later, more, _, hm, ⟨rfl, rfl⟩, rfl⟩, rfl⟩ := h
    rw [List.append_nil, leaves, Filter.leaves]
    refine .append ?_ (sifts_entries hm)
    rw [Filter.readEntry] at he
    cases hk : Connective.ofKey? key with
    | none =>
      simp only [hk, Outcome.map_eq_ok] at he
      obtain ⟨requirement, hr, rfl⟩ := he
      rw [Entry.leaves]
      exact sifts_field hr
    | some connective =>
      simp only [hk] at he
      exact sifts_group he

theorem sifts_group : ∀ {connective : Connective} {value : Json} {events : List Event}
    {entry : Entry}, Filter.readGroup .skip connective value = ⟨events, .ok entry⟩ →
    Sifts (groupLeaves value) events entry.leaves
  | connective, .object inner, events, entry, h => by
    rw [Filter.readGroup, Outcome.map_eq_ok] at h
    obtain ⟨filter, hf, rfl⟩ := h
    rw [groupLeaves, Entry.leaves]
    exact sifts_entries hf
  | connective, .array list, events, entry, h => by
    rw [Filter.readGroup, Outcome.map_eq_ok] at h
    obtain ⟨filters, hf, rfl⟩ := h
    rw [groupLeaves, Entry.leaves]
    exact sifts_trees hf
  | _, .null, _, _, h | _, .bool _, _, _, h | _, .number _, _, _, h | _, .string _, _, _, h => by
    cases h

theorem sifts_trees : ∀ {connective : Connective} {list : List Json} {events : List Event}
    {filters : List Filter}, Filter.readEach .skip connective list = ⟨events, .ok filters⟩ →
    Sifts (treeLeaves list) events (Filter.allLeaves filters)
  | _, [], events, filters, h => by
    rw [Filter.readEach, Outcome.pure_eq_ok] at h
    obtain ⟨rfl, rfl⟩ := h
    exact .nil
  | connective, .object inner :: rest, events, filters, h => by
    simp only [Filter.readEach, Outcome.bind_eq_ok, Outcome.pure_eq_ok] at h
    obtain ⟨first, filter, _, hf, ⟨later, more, _, hm, ⟨rfl, rfl⟩, rfl⟩, rfl⟩ := h
    rw [List.append_nil, treeLeaves, Filter.allLeaves]
    exact (sifts_entries hf).append (sifts_trees hm)
  | _, .null :: _, _, _, h | _, .bool _ :: _, _, _, h | _, .number _ :: _, _, _, h
  | _, .string _ :: _, _, _, h | _, .array _ :: _, _, _, h => by
    cases h

end

end Conditions
end JsonSelect
