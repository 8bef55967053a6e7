import JsonSelect.Error

/-! Names of tables and columns. -/
namespace JsonSelect

/-- A dotted name, by its parts. -/
structure Identifier where
  parts : List String
deriving DecidableEq

/-- Names are taken as they are, as one part, or have to be dotted words. -/
inductive NamePolicy where
  | verbatim
  | strict
deriving DecidableEq

namespace Identifier

def isStart (c : Char) : Bool := c = '_' || c.isAlpha

def isInner (c : Char) : Bool := c = '_' || c = '$' || c.isAlphanum

/-- The pieces of a text between its dots; there is always one. -/
def segments : List Char → List (List Char)
  | [] => [[]]
  | c :: rest =>
    if c = '.' then [] :: segments rest
    else match segments rest with
      | [] => [[c]]
      | segment :: more => (c :: segment) :: more

/-- A segment starts with a letter or `_` and goes on with letters, digits, `_` and `$`. -/
def checkSegment (name : String) : List Char → Except Error String
  | [] => .error (.emptySegment name)
  | first :: rest =>
    if isStart first then
      match rest.find? (!isInner ·) with
      | none => .ok (String.ofList (first :: rest))
      | some bad => .error (.badCharacter bad)
    else .error (.badStart first)

def checkSegments (name : String) : List (List Char) → Except Error (List String)
  | [] => .ok []
  | segment :: rest => do
    let part ← checkSegment name segment
    let parts ← checkSegments name rest
    pure (part :: parts)

def ofStrict (name : String) : Except Error Identifier :=
  if name = "" then .error .emptyIdentifier
  else Identifier.mk <$> checkSegments name (segments name.toList)

def ofName (policy : NamePolicy) (name : String) : Except Error Identifier :=
  match policy with
  | .verbatim => .ok ⟨[name]⟩
  | .strict => ofStrict name

/-- Each part stands in backticks; what it contains is not looked at. -/
def text (identifier : Identifier) : String :=
  ".".intercalate (identifier.parts.map fun part => "`" ++ part ++ "`")

end Identifier
end JsonSelect
