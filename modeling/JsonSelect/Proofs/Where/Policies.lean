import JsonSelect.Proofs.Identifier.Grammar
import JsonSelect.Proofs.Sql.Names
import JsonSelect.Proofs.Where.Grammar

/-! The policies for names. The strict one takes fewer filters than the other, and writes the dots
of a name outside of the backquotes; nothing else in a condition depends on the policy. -/
namespace JsonSelect

section Literals

open Sql

variable {text : String} {content rest : List Char}

theorem IsStringBody.splitFrom_eq (h : IsStringBody content) :
    splitFrom .string (content ++ rest) = content ++ splitFrom .string rest := by
  induction h with
  | nil => rfl
  | plain hc _ ih => simp [splitFrom, Place.written, Place.next, hc, ih]
  | guarded _ ih => simp [splitFrom, Place.written, Place.next, ih]
  | doubled _ ih => simp [splitFrom, Place.written, Place.next, ih]

theorem Sql.Splits.string (h : IsStringBody content) :
    Splits (String.ofList ('"' :: content ++ ['"'])) (String.ofList ('"' :: content ++ ['"'])) := by
  intro rest
  have hs := @h.splitFrom_eq _ ('"' :: rest)
  simp [splitFrom, Place.written, Place.next, hs]

theorem isStringBody_of_isHexDigit (h : ∀ c ∈ content, isHexDigit c = true) :
    IsStringBody content := by
  induction content with
  | nil => exact .nil
  | cons c content ih =>
    have hc := h c List.mem_cons_self
    exact .plain ⟨ne_of_class hc '"' rfl, ne_of_class hc '\\' rfl⟩
      (ih fun d hd => h d (List.mem_cons_of_mem _ hd))

/-- Values have no names in them, whatever their texts contain. -/
theorem Sql.Splits.literal (h : IsLiteral text) : Splits text text := by
  cases h with
  | null | yes | no => exact .plain (by decide)
  | number h =>
    exact .plain ⟨fun hc => absurd (h.mem hc) (by decide), fun hc => absurd (h.mem hc) (by decide)⟩
  | string h => exact .string h
  | @bytes digits h =>
    have hx : Splits "X" "X" := .plain (by decide)
    simpa using hx.append (.string (isStringBody_of_isHexDigit h))

end Literals

/-- Both policies take the name, and the second one writes it as the first does, split. -/
def NamePolicy.Splits (policy another : NamePolicy) (name : String) : Prop :=
  ∃ column other, Identifier.ofName policy name = .ok column ∧
    Identifier.ofName another name = .ok other ∧ Sql.Splits column.text other.text

namespace Identifier

open Sql

variable {name : String} {parts : List String} {text rest : List Char}

/-- The text of the parts of a name is that of the name with its dots put between names. -/
theorem text_of_segments (h : parts.map String.toList = segments text) :
    (Identifier.mk parts).text.toList = '`' :: text.flatMap (Place.written .name) ++ ['`'] := by
  induction text generalizing parts with
  | nil =>
    obtain ⟨part, rfl, hp⟩ := List.map_eq_singleton_iff.mp h
    simp [Identifier.text, hp]
  | cons c text ih =>
    by_cases hc : c = '.'
    · rw [segments, if_pos hc] at h
      obtain ⟨part, parts, rfl, hp, hm⟩ := List.map_eq_cons_iff.mp h
      cases parts with
      | nil => exact absurd hm.symm (segments_ne_nil text)
      | cons next parts => simp [text_cons_cons, hp, ih hm, Place.written, hc]
    · obtain ⟨segment, more, hs⟩ := List.exists_cons_of_ne_nil (segments_ne_nil text)
      simp only [segments, if_neg hc, hs] at h
      obtain ⟨part, parts, rfl, hp, hm⟩ := List.map_eq_cons_iff.mp h
      -- the character is put in front of the first part of the rest
      have hi := @ih (String.ofList segment :: parts) (by simp [hs, hm])
      cases parts with
      | nil => simpa [Identifier.text, hp, Place.written, hc] using hi
      | cons next parts => simpa [text_cons_cons, hp, Place.written, hc] using hi

/-- A path in backquotes is split into what has backquotes around each of its dots. -/
theorem splits_of_text {column : Identifier} (h : IsPath name.toList)
    (ht : column.text.toList = '`' :: name.toList.flatMap (Place.written .name) ++ ['`']) :
    Splits (Identifier.mk [name]).text column.text := by
  intro rest
  have hp : ∀ c ∈ name.toList, Place.name.next c = .name := by
    intro c hc
    have hq : c ≠ '`' := fun he => backquote_notMem_of_isPath h (he ▸ hc)
    simp [Place.next, hq]
  have hn := @splitFrom_run name.toList ('`' :: rest) .name hp
  rw [ht]
  simpa [Identifier.text, splitFrom, Place.written, Place.next] using hn

theorem splits_strict (h : IsPath name.toList) : NamePolicy.Splits .verbatim .strict name := by
  obtain ⟨column, hc⟩ := exists_strict_iff.mpr h
  exact ⟨_, column, rfl, hc, splits_of_text h (text_of_segments (parts_of_strict hc).1)⟩

theorem splits_verbatim (h : IsPath name.toList) (hd : '.' ∉ name.toList) :
    NamePolicy.Splits .verbatim .verbatim name := by
  refine ⟨_, _, rfl, rfl, splits_of_text h ?_⟩
  have hw : name.toList.flatMap (Place.written .name) = name.toList := by
    refine (List.flatMap_congr fun c hc => ?_).trans (List.flatMap_singleton' _)
    have hne : c ≠ '.' := fun he => hd (he ▸ hc)
    simp [Place.written, hne]
  simp [Identifier.text, hw]

end Identifier

section Runs

open Sql

variable {column other : Identifier} {connective : Connective}

/-- The text of one condition is that of the other with its names split. -/
def Clause.Splits (clause other : Clause) : Prop := Sql.Splits clause.text other.text

section Atoms

variable (hc : Sql.Splits column.text other.text)

include hc

theorem Atom.splits_isNull : Sql.Splits (isNull column).text (isNull other).text :=
  have hw : Sql.Splits " IS NULL" " IS NULL" := .plain (by decide)
  hc.append hw

theorem Atom.splits_isNotNull : Sql.Splits (isNotNull column).text (isNotNull other).text :=
  have hw : Sql.Splits " IS NOT NULL" " IS NOT NULL" := .plain (by decide)
  hc.append hw

theorem Atom.splits_compare (comparison : Comparison) (value : Literal) :
    Sql.Splits (compare column comparison value).text (compare other comparison value).text :=
  have hb : Sql.Splits " " " " := .plain (by decide)
  have hs : Sql.Splits comparison.symbol comparison.symbol :=
    .plain (by cases comparison <;> decide)
  (((hc.append hb).append hs).append hb).append (.literal value.isLiteral_quoted)

theorem Atom.splits_like {pattern : Pattern} (h : pattern.Proper) :
    Sql.Splits (like column pattern).text (like other pattern).text :=
  have hw : Sql.Splits " LIKE " " LIKE " := .plain (by decide)
  (hc.append hw).append (.literal (Pattern.isLiteral_text h))

theorem Atom.splits_member (negated : Bool) (first : Literal) (rest : List Literal) :
    Sql.Splits (member column negated first rest).text (member other negated first rest).text := by
  have hb : Sql.Splits ", " ", " := .plain (by decide)
  have hw : ∀ word ∈ [" NOT IN (", " IN (", ")"], Sql.Splits word word := by
    intro word hm
    exact .plain (by fin_cases hm <;> decide)
  have hl : List.Forall₂ Sql.Splits ((first :: rest).map Literal.quoted)
      ((first :: rest).map Literal.quoted) := by
    rw [List.forall₂_map_left_iff, List.forall₂_map_right_iff]
    exact List.forall₂_same.mpr fun value _ => .literal value.isLiteral_quoted
  refine ((hc.append ?_).append (hb.intercalate hl)).append (hw _ (by simp))
  cases negated <;> exact hw _ (by simp)

theorem Atom.splits_ofValue (value : Literal) :
    Sql.Splits (ofValue column value).text (ofValue other value).text := by
  unfold ofValue
  split
  · exact splits_isNull hc
  · exact splits_compare hc .eq value

theorem Atom.splits_ofMember (negated : Bool) (values : List Literal) :
    Sql.Splits (ofMember column negated values).text (ofMember other negated values).text := by
  cases values with
  | nil =>
    have hn : Sql.Splits never.text never.text := .plain (by decide)
    have ha : Sql.Splits always.text always.text := .plain (by decide)
    cases negated with
    | false => exact hn
    | true => exact ha
  | cons first rest => exact splits_member hc negated first rest

/-- An ordering against null has no condition with either column. -/
theorem Comparison.splits_atom? (comparison : Comparison) (value : Literal) :
    Option.Rel (fun atom others => Sql.Splits atom.text others.text)
      (comparison.atom? column value) (comparison.atom? other value) := by
  unfold atom?
  split
  · cases comparison with
    | eq => exact .some (Atom.splits_isNull hc)
    | neq => exact .some (Atom.splits_isNotNull hc)
    | lt | gt | lte | gte => exact .none
  · exact .some (Atom.splits_compare hc comparison value)

end Atoms

section Parts

variable {parts others : List Clause} {part another : Option Clause}

theorem Clause.splits_join (h : List.Forall₂ Splits parts others) :
    Option.Rel Splits (join connective parts) (join connective others) := by
  have hw : Sql.Splits (" " ++ connective.keyword ++ " ") (" " ++ connective.keyword ++ " ") :=
    .plain (by cases connective <;> decide)
  cases h with
  | nil => exact .none
  | cons hp hm =>
    refine .some ?_
    rw [Splits, text, text, texts_eq_map, texts_eq_map]
    refine hw.intercalate ?_
    rw [List.forall₂_map_left_iff, List.forall₂_map_right_iff]
    exact .cons hp hm

theorem Clause.splits_enclosed (h : List.Forall₂ Splits parts others) :
    Option.Rel Splits (enclosed connective parts) (enclosed connective others) := by
  have ho : Sql.Splits "(" "(" := .plain (by decide)
  have hc : Sql.Splits ")" ")" := .plain (by decide)
  have hj := @splits_join connective _ _ h
  unfold enclosed
  generalize join connective parts = joined at hj ⊢
  generalize join connective others = otherJoined at hj ⊢
  cases hj with
  | none => exact .none
  | some hs => exact .some ((ho.append hs).append hc)

theorem Clause.splits_append (h : Option.Rel Splits part another)
    (hm : List.Forall₂ Splits parts others) :
    List.Forall₂ Splits (part.toList ++ parts) (another.toList ++ others) := by
  cases h with
  | none => exact hm
  | some hs => exact .cons hs hm

/-- Both runs build their parts one after the other. -/
theorem Clause.splits_cons {first otherFirst : Except Error (Option Clause)}
    {rest otherRest : Except Error (List Clause)} (h : Alike (Option.Rel Splits) first otherFirst)
    (hm : Alike (List.Forall₂ Splits) rest otherRest) :
    Alike (List.Forall₂ Splits)
      (first >>= fun part => rest >>= fun parts => pure (part.toList ++ parts))
      (otherFirst >>= fun part => otherRest >>= fun parts => pure (part.toList ++ parts)) :=
  h.bind fun _ _ hp => hm.bind fun _ _ hr => .ok (splits_append hp hr)

end Parts

mutual

theorem Requirement.splits_clause (hc : Sql.Splits column.text other.text) :
    ∀ (joiner : Connective) (requirement : Requirement),
      Alike (Option.Rel Clause.Splits) (requirement.clause column joiner).result
        (requirement.clause other joiner).result
  | _, .equals value => .ok (.some (Atom.splits_ofValue hc value))
  | joiner, .tests tests => by
    simp only [Requirement.clause, Outcome.result_map]
    exact (Test.splits_clauses hc tests).map fun _ _ => Clause.splits_enclosed

theorem Requirement.splits_clauses (hc : Sql.Splits column.text other.text) :
    ∀ (joiner : Connective) (items : List Requirement),
      Alike (List.Forall₂ Clause.Splits) (Requirement.clauses column joiner items).result
        (Requirement.clauses other joiner items).result
  | _, [] => .ok .nil
  | joiner, item :: items => by
    simp only [Requirement.clauses, Outcome.result_bind, Outcome.result_pure]
    exact Clause.splits_cons (Requirement.splits_clause hc joiner item)
      (Requirement.splits_clauses hc joiner items)

theorem Test.splits_clause (hc : Sql.Splits column.text other.text) : ∀ test : Test,
    Alike (Option.Rel Clause.Splits) (test.clause column).result (test.clause other).result
  | .compare comparison value => by
    have ha := Comparison.splits_atom? hc comparison value
    simp only [Test.clause]
    generalize comparison.atom? column value = atom at ha ⊢
    generalize comparison.atom? other value = otherAtom at ha ⊢
    cases ha with
    | none => exact .ok .none
    | some hs => exact .ok (.some hs)
  | .like operand => by
    simp only [Test.clause, Outcome.liftM_eq, Outcome.result_bind, Outcome.result_ofExcept,
      Outcome.result_pure]
    cases hp : Pattern.ofLiteral operand with
    | error error => exact .error error
    | ok pattern => exact .ok (.some (Atom.splits_like hc (Pattern.proper_ofLiteral hp)))
  | .member values negated => .ok (.some (Atom.splits_ofMember hc negated values))
  | .group connective items => by
    simp only [Test.clause, Outcome.result_map]
    exact (Requirement.splits_clauses hc connective items).map fun _ _ => Clause.splits_join

theorem Test.splits_clauses (hc : Sql.Splits column.text other.text) : ∀ tests : List Test,
    Alike (List.Forall₂ Clause.Splits) (Test.clauses column tests).result
      (Test.clauses other tests).result
  | [] => .ok .nil
  | test :: tests => by
    simp only [Test.clauses, Outcome.result_bind, Outcome.result_pure]
    exact Clause.splits_cons (Test.splits_clause hc test) (Test.splits_clauses hc tests)

end

section Entries

variable {policy another : NamePolicy}

mutual

theorem Entry.splits_clause : ∀ entry : Entry, (∀ name ∈ entry.names, policy.Splits another name) →
    Alike (Option.Rel Clause.Splits) (entry.clause policy).result (entry.clause another).result
  | .nested connective filter, hn => by
    simp only [Entry.clause, Outcome.result_map]
    exact (Filter.splits_entries filter hn).map fun _ _ => Clause.splits_enclosed
  | .each connective filters, hn => by
    simp only [Entry.clause, Outcome.result_map]
    exact (Filter.splits_clauses filters hn).map fun _ _ => Clause.splits_enclosed
  | .field name requirement, hn => by
    obtain ⟨column, other, hc, ho, hs⟩ := hn name List.mem_cons_self
    simp only [Entry.clause, Outcome.liftM_eq, Outcome.result_bind, Outcome.result_ofExcept, hc, ho]
    exact Requirement.splits_clause hs .and requirement

theorem Filter.splits_entries : ∀ filter : List Entry,
    (∀ name ∈ Filter.names filter, policy.Splits another name) →
    Alike (List.Forall₂ Clause.Splits) (Entry.clauses policy filter).result
      (Entry.clauses another filter).result
  | [], _ => .ok .nil
  | entry :: entries, hn => by
    obtain ⟨he, hm⟩ := List.forall_mem_append.mp hn
    simp only [Entry.clauses, Outcome.result_bind, Outcome.result_pure]
    exact Clause.splits_cons (Entry.splits_clause entry he) (Filter.splits_entries entries hm)

theorem Filter.splits_clauses : ∀ filters : List (List Entry),
    (∀ name ∈ Filter.allNames filters, policy.Splits another name) →
    Alike (List.Forall₂ Clause.Splits) (Filter.clauses policy filters).result
      (Filter.clauses another filters).result
  | [], _ => .ok .nil
  | filter :: filters, hn => by
    obtain ⟨hf, hm⟩ := List.forall_mem_append.mp hn
    simp only [Filter.clauses, Outcome.result_bind, Outcome.result_map, Outcome.result_pure]
    exact Clause.splits_cons
      ((Filter.splits_entries filter hf).map fun _ _ => Clause.splits_enclosed)
      (Filter.splits_clauses filters hm)

end

theorem Filter.splits_sql {filter : Filter}
    (hn : ∀ name ∈ Filter.names filter, policy.Splits another name) :
    Alike Sql.Splits (filter.sql policy connective) (filter.sql another connective) := by
  simp only [Filter.sql, Filter.clause, Outcome.result_map]
  refine ((Filter.splits_entries filter hn).map fun _ _ => Clause.splits_enclosed).map
    fun part others hp => ?_
  cases hp with
  | none => exact fun _ => rfl
  | some hs => exact hs

end Entries

/-- Every name is looked at, whether or not its entry contributes a condition. -/
theorem Filter.namesInvariant (policy : NamePolicy) : Filter.Invariant policy
    (fun _ _ _ _ => True) (fun _ _ _ _ => True) (fun _ _ _ => True) (fun _ _ _ => True)
    (fun entry _ => ∀ name ∈ entry.names, ∃ column, Identifier.ofName policy name = .ok column)
    (fun entries _ =>
      ∀ name ∈ Filter.names entries, ∃ column, Identifier.ofName policy name = .ok column)
    (fun filters _ =>
      ∀ name ∈ Filter.allNames filters, ∃ column, Identifier.ofName policy name = .ok column) where
  equals _ _ _ := trivial
  tests _ _ _ _ _ := trivial
  noRequirements _ _ := trivial
  moreRequirements _ _ _ _ _ _ _ _ := trivial
  compare _ _ _ _ _ := trivial
  unordered _ _ _ _ := trivial
  like _ _ _ _ := trivial
  member _ _ _ := trivial
  group _ _ _ _ _ := trivial
  noTests _ := trivial
  moreTests _ _ _ _ _ _ _ := trivial
  nested _ _ _ hn := hn
  each _ _ _ hn := hn
  field _ _ column _ hc _ := List.forall_mem_singleton.mpr ⟨column, hc⟩
  noEntries := List.forall_mem_nil _
  moreEntries _ _ _ _ hn hm := List.forall_mem_append.mpr ⟨hn, hm⟩
  noFilters := List.forall_mem_nil _
  moreFilters _ _ _ _ hn hm := List.forall_mem_append.mpr ⟨hn, hm⟩

theorem Filter.isPath_of_sql {filter : Filter} {sql : String}
    (h : filter.sql .strict connective = .ok sql) :
    ∀ name ∈ Filter.names filter, Identifier.IsPath name.toList := by
  obtain ⟨part, hc, -⟩ := Error.map_eq_ok.mp h
  obtain ⟨parts, hn, -⟩ := (Filter.namesInvariant .strict).filter_clause hc
  exact fun name hm => Identifier.exists_strict_iff.mp (hn name hm)

/-- The strict policy takes a filter exactly when the other policy does and every name in it, at any
depth, is a path. Its text is then that of the other policy with the names split at their dots, and
the same text when there are no dots. -/
theorem Filter.strict_restricts (connective : Connective) (filter : Filter) :
    ((∃ sql, filter.sql .strict connective = .ok sql) ↔
      (∃ sql, filter.sql .verbatim connective = .ok sql) ∧
        ∀ name ∈ Filter.names filter, Identifier.IsPath name.toList) ∧
    ∀ sql, filter.sql .strict connective = .ok sql →
      ∃ verbatim, filter.sql .verbatim connective = .ok verbatim ∧ sql = splitNames verbatim ∧
        ((∀ name ∈ Filter.names filter, '.' ∉ name.toList) → sql = verbatim) := by
  have hs : (∀ name ∈ Filter.names filter, Identifier.IsPath name.toList) →
      Alike Sql.Splits (filter.sql .verbatim connective) (filter.sql .strict connective) :=
    fun hn => Filter.splits_sql fun name hm => Identifier.splits_strict (hn name hm)
  refine ⟨⟨?_, ?_⟩, ?_⟩
  · rintro ⟨sql, h⟩
    have hp := Filter.isPath_of_sql h
    exact ⟨(hs hp).exists_ok_iff.mpr ⟨sql, h⟩, hp⟩
  · rintro ⟨hv, hn⟩
    exact (hs hn).exists_ok_iff.mp hv
  · intro sql h
    have hp := Filter.isPath_of_sql h
    obtain ⟨verbatim, hv, hsplit⟩ := (hs hp).of_ok h
    refine ⟨verbatim, hv, hsplit.splitNames_eq.symm, fun hd => ?_⟩
    -- without dots the other policy's text is split into itself
    have hself : Alike Sql.Splits (filter.sql .verbatim connective)
        (filter.sql .verbatim connective) :=
      Filter.splits_sql fun name hm => Identifier.splits_verbatim (hp name hm) (hd name hm)
    obtain ⟨same, hv', hself⟩ := hself.of_ok hv
    obtain rfl : same = verbatim := Except.ok.inj (hv'.symm.trans hv)
    rw [← hsplit.splitNames_eq, hself.splitNames_eq]

/-- A string is left alone although it looks like a name, and a name that is no path is found
although nothing is asked of its field. -/
theorem Filter.strict_restricts_dotted :
    let filter : Filter := [.field "u.x" (.tests [.compare .lt .null]),
      .nested .or [.field "t.a.b" (.equals (.text "`c.d`")), .field "n" (.equals .null)]]
    let sql := "((`t`.`a`.`b` = \"`c.d`\" OR `n` IS NULL))"
    let verbatim := "((`t.a.b` = \"`c.d`\" OR `n` IS NULL))"
    let unasked : Filter := [.field "a b" (.tests [])]
    (filter.sql .strict .and = .ok sql ∧ filter.sql .verbatim .and = .ok verbatim ∧
      sql = splitNames verbatim) ∧
    unasked.sql .strict .and = .error (.badCharacter ' ') ∧ unasked.sql .verbatim .and = .ok "" ∧
    ¬ Identifier.IsPath "a b".toList := by
  intro filter sql verbatim unasked
  have h : filter.sql .strict .and = .ok sql := rfl
  have hv : filter.sql .verbatim .and = .ok verbatim := rfl
  have hs : unasked.sql .strict .and = .error (.badCharacter ' ') := rfl
  have hu : unasked.sql .verbatim .and = .ok "" := rfl
  refine ⟨⟨h, hv, ?_⟩, hs, hu, fun hp => ?_⟩
  · obtain ⟨text, ht, hs, -⟩ := (Filter.strict_restricts .and filter).2 sql h
    obtain rfl : verbatim = text := Except.ok.inj (hv.symm.trans ht)
    exact hs
  · obtain ⟨text, ht⟩ := (Filter.strict_restricts .and unasked).1.mpr
      ⟨⟨"", hu⟩, List.forall_mem_singleton.mpr hp⟩
    cases hs.symm.trans ht

end Runs
end JsonSelect
