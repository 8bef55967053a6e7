import JsonSelect.Proofs.Where.Tokens

/-! The strings in the tokens of a condition. They are the texts of its filter, in their order. -/
namespace JsonSelect

open Sql

namespace Sql

def Token.string? : Token → Option String
  | string content => some content
  | _ => none

namespace Token

@[simp] theorem string?_string (content : String) : (string content).string? = some content := rfl

@[simp] theorem string?_name (content : String) : (name content).string? = none := rfl

@[simp] theorem string?_number (digits : String) : (number digits).string? = none := rfl

@[simp] theorem string?_word (letters : String) : (word letters).string? = none := rfl

@[simp] theorem string?_operator (symbol : String) : (operator symbol).string? = none := rfl

@[simp] theorem string?_dot : dot.string? = none := rfl

@[simp] theorem string?_comma : comma.string? = none := rfl

@[simp] theorem string?_opening : opening.string? = none := rfl

@[simp] theorem string?_closing : closing.string? = none := rfl

end Token

/-- What the string tokens hold, in their order. -/
def strings (tokens : List Token) : List String := tokens.filterMap Token.string?

@[simp] theorem strings_nil : strings [] = [] := rfl

@[simp] theorem strings_cons (token : Token) (tokens : List Token) :
    strings (token :: tokens) = token.string?.toList ++ strings tokens := by
  rw [strings, List.filterMap_cons]
  cases token.string? <;> rfl

end Sql

/-- The text of a literal, if it is one. -/
def Literal.texts : Literal → List String
  | text value => [value]
  | _ => []

/-- The pattern that stands for a text operand of LIKE. -/
def Literal.patterns : Literal → List String
  | text value => [Pattern.ofInner (String.ofList (Pattern.inner value.toList))]
  | _ => []

mutual

def Requirement.texts : Requirement → List String
  | .equals value => value.texts
  | .tests tests => Test.allTexts tests

def Requirement.allTexts : List Requirement → List String
  | [] => []
  | item :: rest => item.texts ++ Requirement.allTexts rest

def Test.texts : Test → List String
  | .compare _ value => value.texts
  | .like operand => operand.patterns
  | .member values _ => values.flatMap Literal.texts
  | .group _ items => Requirement.allTexts items

def Test.allTexts : List Test → List String
  | [] => []
  | test :: rest => test.texts ++ Test.allTexts rest

end

mutual

def Entry.texts : Entry → List String
  | .nested _ filter => Filter.texts filter
  | .each _ filters => Filter.allTexts filters
  | .field _ requirement => requirement.texts

/-- The texts of a filter in their order, those of LIKE as patterns. -/
def Filter.texts : List Entry → List String
  | [] => []
  | entry :: rest => entry.texts ++ Filter.texts rest

def Filter.allTexts : List (List Entry) → List String
  | [] => []
  | filter :: rest => Filter.texts filter ++ Filter.allTexts rest

end

section Strings

@[simp] theorem Identifier.strings_tokens (column : Identifier) : strings column.tokens = [] := by
  obtain ⟨parts⟩ := column
  induction parts with
  | nil => rfl
  | cons part parts ih =>
    cases parts with
    | nil => rfl
    | cons next parts => simpa [tokens_cons_cons] using ih

namespace Clause

variable {connective : Connective} {part : Option Clause} {parts : List Clause}
  {first rest : List String}

def strings (clause : Clause) : List String := Sql.strings clause.tokens

end Clause
end Strings

end JsonSelect
