import JsonSelect.Text.Blank
import JsonSelect.Text.CaseTable
import JsonSelect.Text.CasedTable

/-! Upper and lower case of characters and texts, by the full mappings. -/
namespace JsonSelect.Text

def isAscii (c : Char) : Bool := c.toNat < 0x80

/-- The partner of `c` in the first run that holds it; `c` itself when no run does. -/
def partner (runs : List CaseRun) (c : Char) : Char :=
  match runs.findSome? fun run => run.partner? c.toNat with
  | some code => Char.ofNat code
  | none => c

def upper (c : Char) : List Char :=
  if isAscii c then [c.toUpper]
  else match upperExpansions.lookup c.toNat with
    | some codes => codes.map Char.ofNat
    | none => [partner upperRuns c]

/-- A capital I with a dot keeps its dot as a combining mark. -/
def lower (c : Char) : List Char :=
  if isAscii c then [c.toLower]
  else if c = '\u0130' then ['i', '\u0307']
  else [partner lowerRuns c]

/-- Whether the first character that does not merely modify its neighbours is a cased letter. -/
def startsCased (text : List Char) : Bool :=
  match text.dropWhile (inRanges ignorableRanges) with
  | [] => false
  | c :: _ => inRanges casedRanges c

/-- A capital sigma turns into the final form when a word ends with it: cased letters stand
before it and none after. `before` holds what has been read, last character first. -/
def lowerAfter (before : List Char) : List Char → List Char
  | [] => []
  | c :: rest =>
    (if c = 'Σ' then [if startsCased before && !startsCased rest then 'ς' else 'σ'] else lower c)
      ++ lowerAfter (c :: before) rest

def lowerText (text : List Char) : List Char := lowerAfter [] text

theorem upper_of_isAscii {c : Char} (h : isAscii c = true) : upper c = [c.toUpper] := by
  simp [upper, h]

theorem lower_of_isAscii {c : Char} (h : isAscii c = true) : lower c = [c.toLower] := by
  simp [lower, h]

theorem lowerAfter_of_isAscii {before text : List Char} (h : ∀ c ∈ text, isAscii c = true) :
    lowerAfter before text = text.map Char.toLower := by
  induction text generalizing before with
  | nil => rfl
  | cons c rest ih =>
    have hc : isAscii c = true := h c (by simp)
    have hne : c ≠ 'Σ' := by rintro rfl; exact absurd hc (by decide)
    simp [lowerAfter, hne, lower_of_isAscii hc, ih fun d hd => h d (by simp [hd])]

theorem lowerText_of_isAscii {text : List Char} (h : ∀ c ∈ text, isAscii c = true) :
    lowerText text = text.map Char.toLower := lowerAfter_of_isAscii h

end JsonSelect.Text
