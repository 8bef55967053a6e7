import JsonSelect.Proofs.Where.Texts

/-! Texts of a filter cannot change the shape of its condition: two filters that differ in their
texts alone have the same tokens but for the contents of strings. -/
namespace JsonSelect

open Sql

/-- The token without what it holds, if it is a string. -/
def Sql.Token.blanked : Token → Token
  | string _ => string ""
  | token => token

/-- The literal with an empty text in the place of its own. -/
def Literal.blanked : Literal → Literal
  | text _ => text ""
  | value => value

mutual

def Requirement.blanked : Requirement → Requirement
  | .equals value => .equals value.blanked
  | .tests tests => .tests (Test.allBlanked tests)

def Requirement.allBlanked : List Requirement → List Requirement
  | [] => []
  | item :: rest => item.blanked :: Requirement.allBlanked rest

def Test.blanked : Test → Test
  | .compare comparison value => .compare comparison value.blanked
  | .like operand => .like operand.blanked
  | .member values negated => .member (values.map Literal.blanked) negated
  | .group connective items => .group connective (Requirement.allBlanked items)

def Test.allBlanked : List Test → List Test
  | [] => []
  | test :: rest => test.blanked :: Test.allBlanked rest

end

mutual

def Entry.blanked : Entry → Entry
  | .nested connective filter => .nested connective (Filter.blanked filter)
  | .each connective filters => .each connective (Filter.allBlanked filters)
  | .field name requirement => .field name requirement.blanked

/-- The filter with empty texts. Filters that have the same one differ in their texts alone. -/
def Filter.blanked : List Entry → List Entry
  | [] => []
  | entry :: rest => entry.blanked :: Filter.blanked rest

def Filter.allBlanked : List (List Entry) → List (List Entry)
  | [] => []
  | filter :: rest => Filter.blanked filter :: Filter.allBlanked rest

end

section Blanked

variable {policy : NamePolicy} {column : Identifier} {connective : Connective}

def Pattern.blanked : Pattern → Pattern
  | contains _ => contains ""
  | bare value => bare value

def Atom.blanked : Atom → Atom
  | isNull column => isNull column
  | isNotNull column => isNotNull column
  | compare column comparison value => compare column comparison value.blanked
  | like column pattern => like column pattern.blanked
  | member column negated first rest =>
    member column negated first.blanked (rest.map Literal.blanked)
  | never => never
  | always => always

mutual

def Clause.blanked : Clause → Clause
  | .single atom => .single atom.blanked
  | .chain connective parts => .chain connective (Clause.allBlanked parts)
  | .parens inner => .parens inner.blanked

def Clause.allBlanked : List Clause → List Clause
  | [] => []
  | part :: rest => part.blanked :: Clause.allBlanked rest

end

theorem Clause.allBlanked_eq_map (parts : List Clause) :
    Clause.allBlanked parts = parts.map Clause.blanked := by
  induction parts with
  | nil => rfl
  | cons part rest ih => simp [Clause.allBlanked, ih]

theorem Literal.isNull_blanked (value : Literal) : value.blanked.isNull = value.isNull := by
  cases value <;> rfl

theorem Atom.ofValue_blanked (value : Literal) :
    ofValue column value.blanked = (ofValue column value).blanked := by
  simp only [ofValue, Literal.isNull_blanked]
  split <;> rfl

theorem Atom.ofMember_blanked (negated : Bool) (values : List Literal) :
    ofMember column negated (values.map Literal.blanked) =
      (ofMember column negated values).blanked := by
  cases values with
  | nil => cases negated <;> rfl
  | cons first rest => rfl

theorem Comparison.atom?_blanked (comparison : Comparison) (value : Literal) :
    comparison.atom? column value.blanked = (comparison.atom? column value).map Atom.blanked := by
  simp only [atom?, Literal.isNull_blanked]
  split
  · cases comparison <;> rfl
  · rfl

theorem Pattern.ofLiteral_blanked (operand : Literal) :
    ofLiteral operand.blanked = blanked <$> ofLiteral operand := by
  cases operand <;> rfl

theorem Clause.join_blanked (parts : List Clause) :
    join connective (parts.map blanked) = (join connective parts).map blanked := by
  cases parts <;> simp [join, blanked, allBlanked_eq_map, allBlanked]

theorem Clause.enclosed_blanked (parts : List Clause) :
    enclosed connective (parts.map blanked) = (enclosed connective parts).map blanked := by
  cases h : join connective parts <;> simp [enclosed, join_blanked, h, blanked]

theorem Clause.append_blanked (x : Except Error (Option Clause)) (y : Except Error (List Clause)) :
    (do
      let part ← Option.map blanked <$> x
      let parts ← List.map blanked <$> y
      pure (part.toList ++ parts)) =
    List.map blanked <$> (do
      let part ← x
      let parts ← y
      pure (part.toList ++ parts)) := by
  cases x with
  | error => rfl
  | ok part =>
    cases y with
    | error => rfl
    | ok parts => cases part <;> rfl

theorem Clause.enclosed_map_blanked (x : Except Error (List Clause)) :
    enclosed connective <$> (List.map blanked <$> x) =
      Option.map blanked <$> (enclosed connective <$> x) := by
  cases x with
  | error => rfl
  | ok parts => exact congrArg Except.ok (enclosed_blanked parts)

mutual

theorem Requirement.clause_blanked : ∀ (joiner : Connective) (requirement : Requirement),
    (requirement.blanked.clause column joiner).result =
      Option.map Clause.blanked <$> (requirement.clause column joiner).result
  | joiner, .equals value => by
    simp only [Requirement.blanked, Requirement.clause, Outcome.result_pure, Atom.ofValue_blanked]
    rfl
  | joiner, .tests tests => by
    simp only [Requirement.blanked, Requirement.clause, Outcome.result_map,
      Test.clauses_allBlanked tests]
    exact Clause.enclosed_map_blanked _

theorem Requirement.clauses_allBlanked : ∀ (joiner : Connective) (items : List Requirement),
    (Requirement.clauses column joiner (Requirement.allBlanked items)).result =
      List.map Clause.blanked <$> (Requirement.clauses column joiner items).result
  | _, [] => rfl
  | joiner, item :: items => by
    simp only [Requirement.allBlanked, Requirement.clauses, Outcome.result_bind,
      Outcome.result_pure, Requirement.clause_blanked joiner item,
      Requirement.clauses_allBlanked joiner items]
    exact Clause.append_blanked _ _

theorem Test.clause_blanked : ∀ test : Test,
    (test.blanked.clause column).result = Option.map Clause.blanked <$> (test.clause column).result
  | .compare comparison value => by
    have hb := @Comparison.atom?_blanked column comparison value
    cases h : comparison.atom? column value <;> rw [h] at hb <;>
      simp only [Test.blanked, Test.clause, h, hb] <;> rfl
  | .like operand => by
    simp only [Test.blanked, Test.clause, Outcome.liftM_eq, Outcome.result_bind,
      Outcome.result_ofExcept, Outcome.result_pure, Pattern.ofLiteral_blanked]
    cases Pattern.ofLiteral operand <;> rfl
  | .member values negated => by
    simp only [Test.blanked, Test.clause, Outcome.result_pure, Atom.ofMember_blanked]
    rfl
  | .group connective items => by
    simp only [Test.blanked, Test.clause, Outcome.result_map,
      Requirement.clauses_allBlanked connective items]
    cases (Requirement.clauses column connective items).result with
    | error => rfl
    | ok parts => exact congrArg Except.ok (Clause.join_blanked parts)

theorem Test.clauses_allBlanked : ∀ tests : List Test,
    (Test.clauses column (Test.allBlanked tests)).result =
      List.map Clause.blanked <$> (Test.clauses column tests).result
  | [] => rfl
  | test :: tests => by
    simp only [Test.allBlanked, Test.clauses, Outcome.result_bind, Outcome.result_pure,
      Test.clause_blanked test, Test.clauses_allBlanked tests]
    exact Clause.append_blanked _ _

end

mutual

theorem Entry.clause_blanked : ∀ entry : Entry,
    (entry.blanked.clause policy).result =
      Option.map Clause.blanked <$> (entry.clause policy).result
  | .nested connective filter => by
    simp only [Entry.blanked, Entry.clause, Outcome.result_map, Filter.entries_blanked filter]
    exact Clause.enclosed_map_blanked _
  | .each connective filters => by
    simp only [Entry.blanked, Entry.clause, Outcome.result_map, Filter.clauses_allBlanked filters]
    exact Clause.enclosed_map_blanked _
  | .field name requirement => by
    simp only [Entry.blanked, Entry.clause, Outcome.liftM_eq, Outcome.result_bind,
      Outcome.result_ofExcept]
    cases Identifier.ofName policy name with
    | error => rfl
    | ok column => exact Requirement.clause_blanked .and requirement

theorem Filter.entries_blanked : ∀ filter : List Entry,
    (Entry.clauses policy (Filter.blanked filter)).result =
      List.map Clause.blanked <$> (Entry.clauses policy filter).result
  | [] => rfl
  | entry :: entries => by
    simp only [Filter.blanked, Entry.clauses, Outcome.result_bind, Outcome.result_pure,
      Entry.clause_blanked entry, Filter.entries_blanked entries]
    exact Clause.append_blanked _ _

theorem Filter.clauses_allBlanked : ∀ filters : List (List Entry),
    (Filter.clauses policy (Filter.allBlanked filters)).result =
      List.map Clause.blanked <$> (Filter.clauses policy filters).result
  | [] => rfl
  | filter :: filters => by
    simp only [Filter.allBlanked, Filter.clauses, Outcome.result_bind, Outcome.result_map,
      Outcome.result_pure, Filter.entries_blanked filter, Filter.clauses_allBlanked filters,
      Clause.enclosed_map_blanked]
    exact Clause.append_blanked _ _

end

theorem Filter.clause_blanked (filter : Filter) :
    (Filter.clause policy connective (Filter.blanked filter)).result =
      Option.map Clause.blanked <$> (filter.clause policy connective).result := by
  simp only [Filter.clause, Outcome.result_map, Filter.entries_blanked filter]
  exact Clause.enclosed_map_blanked _

end Blanked

section Tokens

variable {policy : NamePolicy} {connective : Connective}

theorem map_intersperse {α β : Type} (f : α → β) (x : α) (items : List α) :
    (items.intersperse x).map f = (items.map f).intersperse (f x) := by
  induction items with
  | nil => rfl
  | cons item items ih =>
    cases items with
    | nil => rfl
    | cons next items => simpa using ih

theorem Literal.blanked_token (value : Literal) :
    value.blanked.token.blanked = value.token.blanked := by
  cases value <;> rfl

theorem Pattern.blanked_token (pattern : Pattern) :
    pattern.blanked.token.blanked = pattern.token.blanked := by
  cases pattern <;> rfl

theorem Literal.map_blanked_list (values : List Literal) :
    (((values.map blanked).map token).intersperse .comma).map Token.blanked =
      ((values.map token).intersperse .comma).map Token.blanked := by
  simp [map_intersperse, Function.comp_def, blanked_token]

theorem Atom.map_blanked_tokens (atom : Atom) :
    atom.blanked.tokens.map Token.blanked = atom.tokens.map Token.blanked := by
  cases atom with
  | compare column comparison value => simp [blanked, tokens, Literal.blanked_token]
  | like column pattern => simp [blanked, tokens, Pattern.blanked_token]
  | member column negated first rest =>
    have hl := Literal.map_blanked_list (first :: rest)
    rw [List.map_cons] at hl
    simp only [blanked, tokens, List.map_append, @List.map_cons _ _ Token.blanked, hl]
  | isNull | isNotNull | never | always => rfl

mutual

theorem Clause.map_blanked_tokens : ∀ clause : Clause,
    clause.blanked.tokens.map Token.blanked = clause.tokens.map Token.blanked
  | .single atom => atom.map_blanked_tokens
  | .chain connective parts => by
    simp only [blanked, tokens, List.intercalate, List.map_flatten, map_intersperse,
      Clause.map_blanked_allTokens parts]
  | .parens inner => by simp [blanked, tokens, map_blanked_tokens inner]

theorem Clause.map_blanked_allTokens : ∀ parts : List Clause,
    (allTokens (allBlanked parts)).map (List.map Token.blanked) =
      (allTokens parts).map (List.map Token.blanked)
  | [] => rfl
  | part :: parts => by
    simp [allBlanked, allTokens, map_blanked_tokens part, map_blanked_allTokens parts]

end

mutual

theorem Entry.names_blanked : ∀ entry : Entry, entry.blanked.names = entry.names
  | .nested _ filter => Filter.names_blanked filter
  | .each _ filters => Filter.allNames_allBlanked filters
  | .field _ _ => rfl

theorem Filter.names_blanked : ∀ filter : List Entry,
    Filter.names (Filter.blanked filter) = Filter.names filter
  | [] => rfl
  | entry :: entries => by
    simp [Filter.blanked, Filter.names, entry.names_blanked, Filter.names_blanked entries]

theorem Filter.allNames_allBlanked : ∀ filters : List (List Entry),
    Filter.allNames (Filter.allBlanked filters) = Filter.allNames filters
  | [] => rfl
  | filter :: filters => by
    simp [Filter.allBlanked, Filter.allNames, Filter.names_blanked filter,
      Filter.allNames_allBlanked filters]

end

end Tokens

end JsonSelect
