import JsonSelect.Proofs.Where.Leaves

/-! Every leaf of a condition object is an atom of the condition or an event in the log. -/
namespace JsonSelect

open Sql
open Expression hiding atom node

namespace Leaf

/-- An ordering against null. -/
def isUnordered : Leaf → Bool
  | compare _ comparison (some .null) => comparison.isOrdering
  | _ => false

/-- Neither an unknown operator nor an ordering against null. -/
def isShown (leaf : Leaf) : Bool := !leaf.isUnknown && !leaf.isUnordered

/-- The event for an ordering against null. -/
def unordered? (policy : NamePolicy) : Leaf → Option Event
  | compare field comparison (some .null) =>
    if comparison.isOrdering then some (.unorderedNull (policy.column field).text comparison)
    else none
  | _ => none

/-- What a leaf says as a condition. -/
def atom? (policy : NamePolicy) : Leaf → Option Atom
  | compare field comparison (some .null) =>
    match comparison with
    | .eq => some (.isNull (policy.column field))
    | .neq => some (.isNotNull (policy.column field))
    | _ => none
  | compare field comparison (some value) =>
    some (.compare (policy.column field) comparison value)
  | like field (some operand) =>
    (Pattern.ofLiteral operand).toOption.map (.like (policy.column field))
  | member _ negated (some []) => some (if negated then .always else .never)
  | member field negated (some (first :: rest)) =>
    some (.member (policy.column field) negated first rest)
  | _ => none

/-- The text of the leaf, by its tokens. -/
def rendering? (policy : NamePolicy) (leaf : Leaf) : Option (List Token) :=
  (leaf.atom? policy).bind fun atom => tokens atom.text

end Leaf

mutual

/-- The atoms of a condition from left to right. -/
def Clause.atoms : Clause → List Atom
  | .single atom => [atom]
  | .chain _ parts => Clause.allAtoms parts
  | .parens inner => inner.atoms

def Clause.allAtoms : List Clause → List Atom
  | [] => []
  | part :: rest => part.atoms ++ Clause.allAtoms rest

end

/-- The atoms that are read from a text, each by its tokens. The empty text has none. -/
def Sql.atoms? (sql : String) : Option (List (List Token)) :=
  if sql = "" then some [] else (expression? sql).map Expression.leaves

namespace Clause

variable {connective : Connective} {parts more : List Clause}

theorem allAtoms_append : allAtoms (parts ++ more) = allAtoms parts ++ allAtoms more := by
  induction parts with
  | nil => rfl
  | cons part parts ih => simp [allAtoms, ih]

theorem allAtoms_join : allAtoms (join connective parts).toList = allAtoms parts := by
  cases parts <;> simp [join, allAtoms, atoms]

theorem allAtoms_enclosed : allAtoms (enclosed connective parts).toList = allAtoms parts := by
  cases parts <;> simp [enclosed, join, allAtoms, atoms]

mutual

theorem leaves_meaning : ∀ clause : Clause, clause.meaning.leaves = clause.atoms.map Atom.tokens
  | .single atom => by simp [meaning, atoms]
  | .chain connective parts => by rw [meaning, leaves_node, atoms, allLeaves_meanings parts]
  | .parens inner => by rw [meaning, atoms, leaves_meaning inner]

theorem allLeaves_meanings : ∀ parts : List Clause,
    allLeaves (meanings parts) = (allAtoms parts).map Atom.tokens
  | [] => by simp [meanings, allAtoms]
  | part :: rest => by
    rw [meanings, allLeaves_cons, allAtoms, List.map_append, leaves_meaning part,
      allLeaves_meanings rest]

end

theorem proper_allAtoms (h : ∀ part ∈ parts, ∀ atom ∈ part.atoms, atom.Proper) :
    ∀ atom ∈ allAtoms parts, atom.Proper := by
  induction parts with
  | nil => simp [allAtoms]
  | cons part parts ih =>
    intro atom ha
    rcases List.mem_append.mp ha with ha | ha
    · exact h part List.mem_cons_self atom ha
    · exact ih (fun next hm => h next (List.mem_cons_of_mem part hm)) atom ha

theorem proper_atoms {clause : Clause} (h : clause.Proper) :
    ∀ atom ∈ clause.atoms, atom.Proper := by
  induction h with
  | single h => simpa [atoms] using h
  | chain _ _ ih => exact proper_allAtoms ih
  | parens _ ih => exact ih

/-- Parentheses make sure that there is a text. -/
theorem eq_none_of_optionText (h : optionText (enclosed connective parts) = "") :
    enclosed connective parts = none := by
  cases parts with
  | nil => rfl
  | cons part parts =>
    have hl := congrArg String.toList h
    simp [optionText, enclosed, join, text] at hl

end Clause

/-- What is read from the text of a filter are the atoms of its condition. -/
theorem Filter.atoms?_of_sql {policy : NamePolicy} {connective : Connective} {filter : Filter}
    {sql : String} (h : filter.sql policy connective = .ok sql)
    (hn : Unquoted (Filter.names filter)) :
    ∃ part, (filter.clause policy connective).result = .ok part ∧
      Sql.atoms? sql = some ((Clause.allAtoms part.toList).map Atom.tokens) ∧
      ∀ atom ∈ Clause.allAtoms part.toList, tokens atom.text = some atom.tokens := by
  by_cases hs : sql = ""
  · obtain ⟨part, hp, ht⟩ := Error.map_eq_ok.mp h
    have hf := hp
    simp only [Filter.clause, Outcome.result_map, Error.map_eq_ok] at hf
    obtain ⟨parts, _, rfl⟩ := hf
    rw [hs] at ht
    have hnone := Clause.eq_none_of_optionText ht
    refine ⟨none, hnone ▸ hp, ?_, ?_⟩
    · rw [Sql.atoms?, if_pos hs]
      rfl
    · intro atom ha
      cases ha
  · obtain ⟨clause, hr, hp, rfl⟩ := Filter.clause_of_sql h hs hn
    have hc : Clause.Proper (.parens clause) := .parens hp
    refine ⟨_, hr, ?_, ?_⟩
    · rw [Sql.atoms?, if_neg hs, Clause.expression?_text hc, Option.map_some, Clause.leaves_line,
        Clause.leaves_meaning]
      simp [Clause.allAtoms]
    · intro atom ha
      have ha : atom ∈ (Clause.parens clause).atoms := by simpa [Clause.allAtoms] using ha
      exact (Atom.scans (Clause.proper_atoms hc atom ha)).tokens_eq

/-- Of leaves that are known, the orderings against null go to the log, one event for each, and all
the others are atoms. -/
structure Shows (policy : NamePolicy) (leaves : List Leaf) (events : List Event)
    (parts : List Clause) : Prop where
  events_eq : events = leaves.filterMap (Leaf.unordered? policy)
  atoms_eq : (Clause.allAtoms parts).map some =
    (leaves.filter (!·.isUnordered)).map (Leaf.atom? policy)

namespace Shows

variable {policy : NamePolicy} {leaf : Leaf} {leaves more : List Leaf} {events later : List Event}
  {parts others : List Clause} {connective : Connective}

theorem nil : Shows policy [] [] [] := ⟨rfl, rfl⟩

theorem append (h : Shows policy leaves events parts) (hm : Shows policy more later others) :
    Shows policy (leaves ++ more) (events ++ later) (parts ++ others) := by
  constructor
  · rw [h.events_eq, hm.events_eq, List.filterMap_append]
  · rw [Clause.allAtoms_append, List.map_append, h.atoms_eq, hm.atoms_eq, List.filter_append,
      List.map_append]

theorem join (h : Shows policy leaves events parts) :
    Shows policy leaves events (Clause.join connective parts).toList :=
  ⟨h.events_eq, by rw [Clause.allAtoms_join, h.atoms_eq]⟩

theorem enclosed (h : Shows policy leaves events parts) :
    Shows policy leaves events (Clause.enclosed connective parts).toList :=
  ⟨h.events_eq, by rw [Clause.allAtoms_enclosed, h.atoms_eq]⟩

theorem compare {name : String} {comparison : Comparison} {value : Literal} {atom : Atom}
    (h : comparison.atom? (policy.column name) value = some atom) :
    Shows policy [.compare name comparison (some value)] [] [.single atom] := by
  cases value with
  | null =>
    cases comparison with
    | eq | neq =>
      cases h
      exact ⟨rfl, rfl⟩
    | _ => cases h
  | _ =>
    cases h
    exact ⟨rfl, rfl⟩

theorem unordered {name : String} {comparison : Comparison} {value : Literal}
    (h : comparison.atom? (policy.column name) value = none) :
    Shows policy [.compare name comparison (some value)]
      [.unorderedNull (policy.column name).text comparison] [] := by
  obtain ⟨hv, ho⟩ := Bool.and_eq_true_iff.mp (Comparison.atom?_eq_none.mp h)
  cases value with
  | null => constructor <;> simp [Leaf.unordered?, Leaf.isUnordered, Clause.allAtoms, ho]
  | _ => cases hv

theorem equals (name : String) (value : Literal) :
    Shows policy [.compare name .eq (some value)] []
      [.single (.ofValue (policy.column name) value)] :=
  compare (by cases value <;> rfl)

theorem like {name : String} {operand : Literal} {pattern : Pattern}
    (h : Pattern.ofLiteral operand = .ok pattern) :
    Shows policy [.like name (some operand)] [] [.single (.like (policy.column name) pattern)] :=
  ⟨rfl, by simp [Clause.allAtoms, Clause.atoms, Leaf.isUnordered, Leaf.atom?, h, Except.toOption]⟩

theorem member (name : String) (negated : Bool) (values : List Literal) :
    Shows policy [.member name negated (some values)] []
      [.single (.ofMember (policy.column name) negated values)] := by
  cases values <;> exact ⟨rfl, rfl⟩

end Shows

section Building

variable {policy : NamePolicy} {name : String}

mutual

-- By induction on the filter. Joining and enclosing parts leaves their atoms and events as they are,
-- so that only the orderings against null take an atom away.
theorem Requirement.shows {joiner : Connective} : ∀ {requirement : Requirement}
    {events : List Event} {part : Option Clause},
    requirement.clause (policy.column name) joiner = ⟨events, .ok part⟩ →
    Shows policy (requirement.leaves name) events part.toList
  | .equals value, events, part, h => by
    rw [Requirement.clause, Outcome.pure_eq_ok] at h
    obtain ⟨rfl, rfl⟩ := h
    exact .equals name value
  | .tests tests, events, part, h => by
    rw [Requirement.clause, Outcome.map_eq_ok] at h
    obtain ⟨parts, hp, rfl⟩ := h
    rw [Requirement.leaves]
    exact (Test.shows_clauses hp).enclosed

theorem Requirement.shows_clauses {joiner : Connective} : ∀ {items : List Requirement}
    {events : List Event} {parts : List Clause},
    Requirement.clauses (policy.column name) joiner items = ⟨events, .ok parts⟩ →
    Shows policy (Requirement.allLeaves name items) events parts
  | [], events, parts, h => by
    rw [Requirement.clauses, Outcome.pure_eq_ok] at h
    obtain ⟨rfl, rfl⟩ := h
    exact .nil
  | item :: rest, events, parts, h => by
    simp only [Requirement.clauses, Outcome.bind_eq_ok, Outcome.pure_eq_ok] at h
    obtain ⟨first, part, _, hp, ⟨later, more, _, hm, ⟨rfl, rfl⟩, rfl⟩, rfl⟩ := h
    rw [List.append_nil, Requirement.allLeaves]
    exact (Requirement.shows hp).append (Requirement.shows_clauses hm)

theorem Test.shows : ∀ {test : Test} {events : List Event} {part : Option Clause},
    test.clause (policy.column name) = ⟨events, .ok part⟩ →
    Shows policy (test.leaves name) events part.toList
  | .compare comparison value, events, part, h => by
    rw [Test.leaves]
    cases ha : comparison.atom? (policy.column name) value with
    | some atom =>
      simp only [Test.clause, ha, Outcome.pure_eq_ok] at h
      obtain ⟨rfl, rfl⟩ := h
      exact .compare ha
    | none =>
      simp only [Test.clause, ha, Outcome.bind_eq_ok, Outcome.pure_eq_ok] at h
      obtain ⟨first, _, _, he, ⟨rfl, rfl⟩, rfl⟩ := h
      obtain rfl := Outcome.emit_eq_ok.mp he
      exact .unordered ha
  | .like operand, events, part, h => by
    simp only [Test.clause, Outcome.liftM_eq, Outcome.bind_eq_ok, Outcome.ofExcept_eq_ok,
      Outcome.pure_eq_ok] at h
    obtain ⟨_, pattern, _, ⟨rfl, hp⟩, ⟨rfl, rfl⟩, rfl⟩ := h
    exact .like hp
  | .member values negated, events, part, h => by
    rw [Test.clause, Outcome.pure_eq_ok] at h
    obtain ⟨rfl, rfl⟩ := h
    exact .member name negated values
  | .group connective items, events, part, h => by
    rw [Test.clause, Outcome.map_eq_ok] at h
    obtain ⟨parts, hp, rfl⟩ := h
    rw [Test.leaves]
    exact (Requirement.shows_clauses hp).join

theorem Test.shows_clauses : ∀ {tests : List Test} {events : List Event} {parts : List Clause},
    Test.clauses (policy.column name) tests = ⟨events, .ok parts⟩ →
    Shows policy (Test.allLeaves name tests) events parts
  | [], events, parts, h => by
    rw [Test.clauses, Outcome.pure_eq_ok] at h
    obtain ⟨rfl, rfl⟩ := h
    exact .nil
  | test :: rest, events, parts, h => by
    simp only [Test.clauses, Outcome.bind_eq_ok, Outcome.pure_eq_ok] at h
    obtain ⟨first, part, _, hp, ⟨later, more, _, hm, ⟨rfl, rfl⟩, rfl⟩, rfl⟩ := h
    rw [List.append_nil, Test.allLeaves]
    exact (Test.shows hp).append (Test.shows_clauses hm)

end

mutual

theorem Entry.shows : ∀ {entry : Entry} {events : List Event} {part : Option Clause},
    entry.clause policy = ⟨events, .ok part⟩ → Shows policy entry.leaves events part.toList
  | .nested connective filter, events, part, h => by
    rw [Entry.clause, Outcome.map_eq_ok] at h
    obtain ⟨parts, hp, rfl⟩ := h
    rw [Entry.leaves]
    exact (Entry.shows_clauses hp).enclosed
  | .each connective filters, events, part, h => by
    rw [Entry.clause, Outcome.map_eq_ok] at h
    obtain ⟨parts, hp, rfl⟩ := h
    rw [Entry.leaves]
    exact (Filter.shows_clauses hp).enclosed
  | .field name requirement, events, part, h => by
    simp only [Entry.clause, Outcome.liftM_eq, Outcome.bind_eq_ok, Outcome.ofExcept_eq_ok] at h
    obtain ⟨_, column, later, ⟨rfl, hc⟩, hp, rfl⟩ := h
    obtain rfl := Identifier.eq_column hc
    rw [Entry.leaves]
    exact Requirement.shows hp

theorem Entry.shows_clauses : ∀ {filter : List Entry} {events : List Event} {parts : List Clause},
    Entry.clauses policy filter = ⟨events, .ok parts⟩ →
    Shows policy (Filter.leaves filter) events parts
  | [], events, parts, h => by
    rw [Entry.clauses, Outcome.pure_eq_ok] at h
    obtain ⟨rfl, rfl⟩ := h
    exact .nil
  | entry :: rest, events, parts, h => by
    simp only [Entry.clauses, Outcome.bind_eq_ok, Outcome.pure_eq_ok] at h
    obtain ⟨first, part, _, hp, ⟨later, more, _, hm, ⟨rfl, rfl⟩, rfl⟩, rfl⟩ := h
    rw [List.append_nil, Filter.leaves]
    exact (Entry.shows hp).append (Entry.shows_clauses hm)

theorem Filter.shows_clauses : ∀ {filters : List Filter} {events : List Event}
    {parts : List Clause}, Filter.clauses policy filters = ⟨events, .ok parts⟩ →
    Shows policy (Filter.allLeaves filters) events parts
  | [], events, parts, h => by
    rw [Filter.clauses, Outcome.pure_eq_ok] at h
    obtain ⟨rfl, rfl⟩ := h
    exact .nil
  | filter :: rest, events, parts, h => by
    simp only [Filter.clauses, Outcome.bind_eq_ok, Outcome.map_eq_ok, Outcome.pure_eq_ok] at h
    obtain ⟨first, _, _, ⟨found, hp, rfl⟩, ⟨later, more, _, hm, ⟨rfl, rfl⟩, rfl⟩, rfl⟩ := h
    rw [List.append_nil, Filter.allLeaves]
    exact (Entry.shows_clauses hp).enclosed.append (Filter.shows_clauses hm)

end

theorem Filter.shows_clause {connective : Connective} {filter : Filter} {events : List Event}
    {part : Option Clause} (h : filter.clause policy connective = ⟨events, .ok part⟩) :
    Shows policy (Filter.leaves filter) events part.toList := by
  obtain ⟨parts, hp, rfl⟩ := Outcome.map_eq_ok.mp h
  exact (Entry.shows_clauses hp).enclosed

end Building

namespace Leaf

variable {policy : NamePolicy}

theorem filterMap_unordered? (leaves : List Leaf) :
    (leaves.filter (!·.isUnknown)).filterMap (unordered? policy) =
      leaves.filterMap (unordered? policy) := by
  rw [List.filterMap_filter]
  congr 1
  funext leaf
  cases leaf <;> rfl

theorem filter_isShown (leaves : List Leaf) :
    (leaves.filter (!·.isUnknown)).filter (!·.isUnordered) = leaves.filter isShown := by
  rw [List.filter_filter]
  congr 1
  funext leaf
  exact Bool.and_comm _ _

/-- Where the text of each atom is read back, the renderings are what was read. -/
theorem map_rendering? {leaves : List Leaf} {atoms : List Atom}
    (h : leaves.map (atom? policy) = atoms.map some)
    (ha : ∀ atom ∈ atoms, tokens atom.text = some atom.tokens) :
    leaves.map (rendering? policy) = (atoms.map Atom.tokens).map some := by
  have hm := congrArg (List.map (Option.bind · fun atom => tokens atom.text)) h
  rw [List.map_map, List.map_map] at hm
  rw [List.map_map]
  exact hm.trans (List.map_congr_left ha)

/-- A leaf is shown, skipped or unordered, and only one of these. -/
theorem length_eq (policy : NamePolicy) (leaves : List Leaf) :
    leaves.length = (leaves.filter isShown).length +
      ((leaves.filterMap skipped?).length + (leaves.filterMap (unordered? policy)).length) := by
  induction leaves with
  | nil => rfl
  | cons leaf rest ih =>
    have hl : [leaf].length = ([leaf].filter isShown).length +
        (([leaf].filterMap skipped?).length + ([leaf].filterMap (unordered? policy)).length) := by
      rcases leaf with ⟨_, comparison, _ | _ | _ | _ | _ | _⟩ | _ | _ | _
      case compare.some.null => cases comparison <;> rfl
      all_goals rfl
    rw [← List.singleton_append, List.length_append, List.filter_append, List.filterMap_append,
      List.filterMap_append, List.length_append, List.length_append, List.length_append]
    omega

end Leaf

section Accounts

variable {settings : Settings} {conditions : Fields} {sql : String}

/-- Where unknown operators are skipped, the atoms of a condition text from left to right are those
of the leaves that are shown, and the log has one event for every other leaf: first the unknown
operators, then the orderings against null. -/
theorem Settings.leaves_accounted (hs : settings.unknownOperators = .skip)
    (h : Clause.optionText <$> (settings.condition conditions).result = .ok sql)
    (hn : Unquoted (Conditions.names conditions)) :
    let leaves := Conditions.leaves conditions
    let events := (settings.condition conditions).events
    ∃ atoms, Sql.atoms? sql = some atoms ∧
      (leaves.filter Leaf.isShown).map (Leaf.rendering? settings.names) = atoms.map some ∧
      events = leaves.filterMap Leaf.skipped? ++
        leaves.filterMap (Leaf.unordered? settings.names) ∧
      leaves.length = atoms.length + events.length := by
  intro leaves events
  obtain ⟨part, hp, ht⟩ := Error.map_eq_ok.mp h
  have hc : settings.condition conditions = ⟨events, .ok part⟩ := by rw [← hp]
  rw [Settings.condition, hs] at hc
  obtain ⟨skipped, filter, unordered, hr, hf, he⟩ := Outcome.bind_eq_ok.mp hc
  have hsift := Conditions.sifts_entries hr
  have hshow := Filter.shows_clause hf
  have hsql : filter.sql settings.names .and = .ok sql := by rw [Filter.sql, hf, ← ht]; rfl
  have hnames : Unquoted (Filter.names filter) := by
    rw [(Conditions.entries_of_read settings.names (congrArg Outcome.result hr)).2]
    exact hn
  obtain ⟨part', hp', hx, ha⟩ := Filter.atoms?_of_sql hsql hnames
  obtain rfl : part' = part := by
    rw [hf] at hp'
    exact (Except.ok.inj hp').symm
  have hatoms := hshow.atoms_eq
  rw [hsift.kept_eq, Leaf.filter_isShown] at hatoms
  have hrender := Leaf.map_rendering? hatoms.symm ha
  have hevents : events = leaves.filterMap Leaf.skipped? ++
      leaves.filterMap (Leaf.unordered? settings.names) := by
    rw [he, hsift.events_eq, hshow.events_eq, hsift.kept_eq, Leaf.filterMap_unordered?]
  refine ⟨_, hx, hrender, hevents, ?_⟩
  have hlen := congrArg List.length hrender
  rw [List.length_map, List.length_map] at hlen
  rw [Leaf.length_eq settings.names leaves, hlen, hevents, List.length_append]

theorem Settings.leaves_accounted_mixed :
    let settings : Settings := {}
    let conditions : Fields := [
      ("a", .object [("$gt", .ofInt 5), ("$near", .null), ("$or", .array [.ofInt 2, .null])]),
      ("$or", .array [.object [("b", .object [("<", .null), ("$in", .array [])])]])]
    let sql := "((`a` > 5 AND `a` = 2 OR `a` IS NULL) AND (((1=0))))"
    let leaves := Conditions.leaves conditions
    let events := (settings.condition conditions).events
    settings.unknownOperators = .skip ∧
      Clause.optionText <$> (settings.condition conditions).result = .ok sql ∧
      Unquoted (Conditions.names conditions) ∧
      ∃ atoms, Sql.atoms? sql = some atoms ∧
        (leaves.filter Leaf.isShown).map (Leaf.rendering? settings.names) = atoms.map some ∧
        events = leaves.filterMap Leaf.skipped? ++
          leaves.filterMap (Leaf.unordered? settings.names) ∧
        leaves.length = atoms.length + events.length := by
  intro settings conditions sql leaves events
  have hs : settings.unknownOperators = .skip := rfl
  have h : Clause.optionText <$> (settings.condition conditions).result = .ok sql := rfl
  have hn : Unquoted (Conditions.names conditions) := by decide
  exact ⟨hs, h, hn, Settings.leaves_accounted hs h hn⟩

end Accounts
end JsonSelect
