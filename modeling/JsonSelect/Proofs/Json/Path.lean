import JsonSelect.Json.Basic

/-! Values that are found by going from object to object. -/
namespace JsonSelect.Json

/-- The value that a path of keys leads to. -/
def at? : Json → List String → Option Json
  | value, [] => some value
  | .object fields, key :: path => (Fields.get? fields key).bind fun value => value.at? path
  | _, _ :: _ => none

def isObject : Json → Bool
  | .object _ => true
  | _ => false

/-- The value without the keys of its first `depth` levels of objects. -/
def unkeyed : Nat → Json → Json
  | depth + 1, .object fields => .object (fields.map fun field => ("", unkeyed depth field.2))
  | _, value => value

theorem at?_nil (value : Json) : value.at? [] = some value := by cases value <;> rfl

theorem at?_object (fields : Fields) (key : String) (path : List String) :
    (object fields).at? (key :: path) =
      (Fields.get? fields key).bind fun value => value.at? path := rfl

theorem at?_cons_eq_some {value held : Json} {key : String} {path : List String}
    (h : value.at? (key :: path) = some held) :
    ∃ fields inner, value = .object fields ∧ Fields.get? fields key = some inner ∧
      inner.at? path = some held := by
  cases value with
  | object fields =>
    obtain ⟨inner, hi, hp⟩ := Option.bind_eq_some_iff.mp h
    exact ⟨fields, inner, rfl, hi, hp⟩
  | null | bool _ | number _ | string _ | array _ => cases h

end JsonSelect.Json
