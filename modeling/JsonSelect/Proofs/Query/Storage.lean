import JsonSelect.Statement

/-! Queries that are kept as JSON and read back. Nulls that were given are gone then, and the
statements stay the same. -/
namespace JsonSelect

namespace Query

/-- A null that is given says as much as nothing. -/
def known : Option Json → Option Json
  | some .null => none
  | value => value

/-- The query as it is read back. -/
def stored (query : Query) : Query :=
  { query with conditions := known query.conditions, limit := known query.limit }

theorem asOption_known (value : Option Json) :
    (Json.ofOption value).asOption .ok = .ok (known value) := by
  cases value with
  | none => rfl
  | some value => cases value <;> rfl

theorem asOption_terms (terms : Option Terms) :
    (Json.ofOption (terms.map Terms.toJson)).asOption Terms.ofJson = .ok terms := by
  cases terms with
  | none => rfl
  | some terms =>
    have hr : Terms.ofJson terms.toJson = .ok terms := Terms.ofJson_toJson terms
    cases terms with
    | raw text => rfl
    | list items =>
      change some <$> Terms.ofJson (Terms.list items).toJson = _
      rw [hr]
      rfl

variable {α : Type} {value : Option Json} {read : Option α} {decode : Json → Except Mismatch α}

/-- A field is read from the part that was written for it, and stays absent without one. -/
theorem foldlM_part (name : String) (set : Option α → Query)
    (hset : ∀ given, withField (set none) (name, given) =
      given.asOption decode >>= fun read => pure (set read))
    (hread : (Json.ofOption value).asOption decode = .ok read) :
    (part name value).foldlM withField (set none) = pure (set read) := by
  cases value with
  | none =>
    cases hread
    rfl
  | some given =>
    change given.asOption decode = .ok read at hread
    rw [part, List.foldlM_cons, hset, hread]
    rfl

-- The query grows by one field after another, in the order in which the fields were written.
theorem ofJson_toJson (query : Query) : ofJson query.toJson = .ok query.stored := by
  obtain ⟨table, conditions, orderBy, limit, groupBy⟩ := query
  have ht : withField {} ("table", .string table) = pure (mk table none none none none) := rfl
  have hw := foldlM_part "where" (mk table · none none none) (fun _ => rfl)
    (asOption_known conditions)
  have ho := foldlM_part "orderBy" (mk table (known conditions) · none none) (fun _ => rfl)
    (asOption_terms orderBy)
  have hl := foldlM_part "limit" (mk table (known conditions) orderBy · none) (fun _ => rfl)
    (asOption_known limit)
  have hg := foldlM_part "groupBy" (mk table (known conditions) orderBy (known limit) ·)
    (fun _ => rfl) (asOption_terms groupBy)
  change List.foldlM withField {} (_ :: part "where" conditions ++ _ ++ _ ++ _) >>= pure = _
  simp only [List.foldlM_append, List.cons_append, List.foldlM_cons, ht, hw, ho, hl, hg, pure_bind]
  rfl

end Query

namespace Settings

variable {settings : Settings} {query : Query} {selection : Selection}

theorem conditionOf_known (settings : Settings) (conditions : Option Json) :
    settings.conditionOf (Query.known conditions) = settings.conditionOf conditions := by
  rcases conditions with _ | _ | _ | _ | _ | _ | _ <;> rfl

theorem ofOption_known (limit : Option Json) :
    Limit.ofOption (Query.known limit) = Limit.ofOption limit := by
  rcases limit with _ | _ | _ | _ | _ | _ | _ <;> rfl

theorem assemble_stored (settings : Settings) (query : Query) (selection : Selection) :
    settings.assemble query.stored selection = settings.assemble query selection := by
  simp only [assemble, Query.stored, conditionOf_known, ofOption_known]

/-- A query that is kept as JSON can be read back, whatever its conditions and its limit are. What
is read has the same statement as the query, or the same error, after the same events. -/
theorem statement_of_stored (query : Query) : ∃ stored, Query.ofJson query.toJson = .ok stored ∧
    ∀ (settings : Settings) (selection : Selection),
      settings.statement stored selection = settings.statement query selection := by
  refine ⟨query.stored, query.ofJson_toJson, fun settings selection => ?_⟩
  rw [Settings.statement, assemble_stored, Settings.statement]
  rfl

end Settings
end JsonSelect
