import Mathlib.Data.List.Forall2

/-! Names of a text that are split at their dots. -/
namespace JsonSelect.Sql

/-- Where a reader of a condition is: in a name, in a string, behind a backslash in a string, or in
neither. -/
inductive Place where
  | outside
  | name
  | string
  | guarded

def Place.next : Place → Char → Place
  | outside, c => if c = '`' then name else if c = '"' then string else outside
  | name, c => if c = '`' then outside else name
  | string, c => if c = '"' then outside else if c = '\\' then guarded else string
  | guarded, _ => string

/-- A dot in a name is put between two names. -/
def Place.written (place : Place) (c : Char) : List Char :=
  match place with
  | name => if c = '.' then ['`', '.', '`'] else [c]
  | _ => [c]

def splitFrom (place : Place) : List Char → List Char
  | [] => []
  | c :: rest => place.written c ++ splitFrom (place.next c) rest

/-- The text with backquotes around the dots in its names, and otherwise as it is. -/
def splitNames (sql : String) : String := String.ofList (splitFrom .outside sql.toList)

/-- Splitting the names of `text` gives `other`, and what follows is split on its own. -/
def Splits (text other : String) : Prop :=
  ∀ rest, splitFrom .outside (text.toList ++ rest) = other.toList ++ splitFrom .outside rest

variable {text other more others sep : String} {content rest : List Char} {place : Place}

theorem Splits.splitNames_eq (h : Splits text other) : splitNames text = other := by
  have hs := h []
  rw [List.append_nil] at hs
  rw [splitNames, hs, splitFrom, List.append_nil, String.ofList_toList]

theorem Splits.append (h : Splits text other) (hm : Splits more others) :
    Splits (text ++ more) (other ++ others) := by
  intro rest
  rw [String.toList_append, String.toList_append, List.append_assoc, List.append_assoc, h, hm]

theorem Splits.intercalate {texts splits : List String} (hs : Splits sep sep)
    (h : List.Forall₂ Splits texts splits) :
    Splits (sep.intercalate texts) (sep.intercalate splits) := by
  induction h with
  | nil => exact fun _ => rfl
  | @cons text other texts splits ht hm ih =>
    cases hm with
    | nil => simpa using ht
    | cons => simpa [String.append_assoc] using ht.append (hs.append ih)

/-- Characters that do not change the place are written one after the other. -/
theorem splitFrom_run (h : ∀ c ∈ content, place.next c = place) :
    splitFrom place (content ++ rest) =
      content.flatMap place.written ++ splitFrom place rest := by
  induction content with
  | nil => rfl
  | cons c content ih =>
    rw [List.cons_append, splitFrom, h c List.mem_cons_self,
      ih fun d hd => h d (List.mem_cons_of_mem _ hd), List.flatMap_cons, List.append_assoc]

/-- A text without quotes stays as it is. -/
theorem Splits.plain (h : '`' ∉ text.toList ∧ '"' ∉ text.toList) : Splits text text := by
  intro rest
  have hp : ∀ c ∈ text.toList, Place.outside.next c = .outside := by
    intro c hc
    have hn : c ≠ '`' := fun he => h.1 (he ▸ hc)
    have hs : c ≠ '"' := fun he => h.2 (he ▸ hc)
    simp [Place.next, hn, hs]
  rw [splitFrom_run hp]
  exact congrArg (· ++ _) (List.flatMap_singleton' _)

end JsonSelect.Sql
