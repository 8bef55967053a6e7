import JsonSelect.Proofs.Sql.Token

/-! What the scanner makes of the pieces of a condition, whatever follows them. -/
namespace JsonSelect.Sql

variable {text more rest read : List Char} {found others : List Token} {state next : State}

@[simp] theorem scan_nil : scan state [] = state.finish := rfl

@[simp] theorem finish_between : State.between.finish = some [] := rfl

@[simp] theorem step_between (c : Char) : step .between c = start c := rfl

theorem scan_cons {c : Char} (h : step state c = some (found, next)) :
    scan state (c :: rest) = (found ++ ·) <$> scan next rest := by
  simp only [scan, h, Option.bind_eq_bind, Option.bind_some]
  cases scan next rest <;> rfl

/-- Where a token without quotes of its own can end. -/
def Boundary (rest : List Char) : Prop := ∀ c ∈ rest.head?, c = ' ' ∨ c = ',' ∨ c = ')'

theorem boundary_nil : Boundary [] := by simp [Boundary]

theorem boundary_space : Boundary (' ' :: rest) := by simp [Boundary]

theorem boundary_comma : Boundary (',' :: rest) := by simp [Boundary]

theorem boundary_closing : Boundary (')' :: rest) := by simp [Boundary]

theorem Boundary.head?_ne {c : Char} (h : Boundary rest) (hc : c ≠ ' ' ∧ c ≠ ',' ∧ c ≠ ')') :
    rest.head? ≠ some c := by
  intro he
  rcases h c he with h | h | h
  · exact hc.1 h
  · exact hc.2.1 h
  · exact hc.2.2 h

/-- The text is split into the tokens `found`, and the split of what follows is not touched. -/
def Scans (text : List Char) (found : List Token) : Prop :=
  ∀ rest, Boundary rest → scan .between (text ++ rest) = (found ++ ·) <$> scan .between rest

theorem Scans.tokens_eq {text : String} (h : Scans text.toList found) :
    tokens text = some found := by
  simpa [tokens] using h [] boundary_nil

theorem Scans.space (h : Scans text found) (hm : Scans more others) :
    Scans (text ++ ' ' :: more) (found ++ others) := by
  intro rest hr
  have hs : scan .between (' ' :: (more ++ rest)) = _ := scan_cons rfl
  rw [List.append_assoc, List.cons_append, h _ boundary_space, hs, hm rest hr]
  simp [Function.comp_def]

theorem Scans.comma (h : Scans text found) (hm : Scans more others) :
    Scans (text ++ ',' :: ' ' :: more) (found ++ .comma :: others) := by
  intro rest hr
  have hc : scan .between (',' :: ' ' :: (more ++ rest)) = _ := scan_cons rfl
  have hs : scan .between (' ' :: (more ++ rest)) = _ := scan_cons rfl
  rw [List.append_assoc, List.cons_append, List.cons_append, h _ boundary_comma, hc, hs, hm rest hr]
  simp [Function.comp_def]

theorem Scans.parens (h : Scans text found) :
    Scans ('(' :: (text ++ [')'])) (.opening :: (found ++ [.closing])) := by
  intro rest _
  have ho : scan .between ('(' :: (text ++ (')' :: rest))) = _ := scan_cons rfl
  have hc : scan .between (')' :: rest) = _ := scan_cons rfl
  rw [List.cons_append, List.append_assoc, List.singleton_append, ho, h _ boundary_closing, hc]
  simp [Function.comp_def]

/-- A state that ends before `c` gives its token and leaves `c` to the next one. -/
theorem scan_of_startAfter {c : Char} (hf : state.finish = some found)
    (hs : step state c = startAfter state c) :
    scan state (c :: rest) = (found ++ ·) <$> scan .between (c :: rest) := by
  cases hc : start c with
  | none => simp only [scan, hs, startAfter, hf, step_between, hc]; rfl
  | some p =>
    obtain ⟨begun, next⟩ := p
    have ha : step state c = some (found ++ begun, next) := by simp [hs, startAfter, hf, hc]
    rw [scan_cons ha, scan_cons ((step_between c).trans hc)]
    simp [Function.comp_def]

theorem scan_of_boundary (hf : state.finish = some found)
    (hs : ∀ c, c = ' ' ∨ c = ',' ∨ c = ')' → step state c = startAfter state c)
    (hr : Boundary rest) : scan state rest = (found ++ ·) <$> scan .between rest := by
  cases rest with
  | nil => simp [hf]
  | cons c rest => exact scan_of_startAfter hf (hs c (hr c rfl))

/-- A run of characters that a state only collects. -/
theorem scan_run {state : List Char → State} {p : Char → Prop}
    (hs : ∀ read c, p c → step (state read) c = some ([], state (read ++ [c])))
    (h : ∀ c ∈ text, p c) :
    scan (state read) (text ++ rest) = scan (state (read ++ text)) rest := by
  induction text generalizing read with
  | nil => simp
  | cons c text ih =>
    rw [List.cons_append, scan_cons (hs read c (h c (by simp))), ih fun d hd => h d (by simp [hd])]
    simp

theorem ne_of_class {p : Char → Bool} {c : Char} (hc : p c = true) (d : Char)
    (hd : p d = false) : c ≠ d := by
  rintro rfl
  simp [hc] at hd

theorem start_of_isDigit {c : Char} (h : c.isDigit = true) :
    start c = some ([], .number .whole [c]) := by
  simp [start, h, ne_of_class h ' ' rfl, ne_of_class h '(' rfl,
    ne_of_class h ')' rfl, ne_of_class h ',' rfl, ne_of_class h '.' rfl,
    ne_of_class h '`' rfl, ne_of_class h '"' rfl, ne_of_class h '-' rfl]

theorem isDigit_eq_false_of_isWordStart {c : Char} (h : isWordStart c = true) :
    c.isDigit = false := by
  have ha : c.isAlpha =
      ((c.val ≥ 'A'.val ∧ c.val ≤ 'Z'.val) || (c.val ≥ 'a'.val && c.val ≤ 'z'.val)) := rfl
  have hd : c.isDigit = (c.val ≥ '0'.val && c.val ≤ '9'.val) := rfl
  simp only [isWordStart, ha, Bool.or_eq_true, decide_eq_true_eq, Bool.and_eq_true] at h
  simp only [hd, Bool.and_eq_false_iff, decide_eq_false_iff_not]
  rcases h with rfl | h | h
  · decide
  · grind
  · grind

theorem start_of_isWordStart {c : Char} (h : isWordStart c = true) :
    start c = some ([], .word [c]) := by
  simp [start, h, isDigit_eq_false_of_isWordStart h, ne_of_class h ' ' rfl,
    ne_of_class h '(' rfl, ne_of_class h ')' rfl, ne_of_class h ',' rfl,
    ne_of_class h '.' rfl, ne_of_class h '`' rfl, ne_of_class h '"' rfl,
    ne_of_class h '-' rfl]

theorem start_of_isOperatorPart {c : Char} (h : isOperatorPart c = true) :
    start c = some ([], .operator [c]) := by
  simp only [isOperatorPart, Bool.or_eq_true, decide_eq_true_eq] at h
  rcases h with ((rfl | rfl) | rfl) | rfl <;> rfl

/-- Whether a text is one word. -/
def spellsWord : List Char → Bool
  | [] => false
  | c :: rest => isWordStart c && rest.all isWordPart

theorem scans_word {word : String} (h : spellsWord word.toList = true) :
    Scans word.toList [.word word] := by
  intro rest hr
  cases hw : word.toList with
  | nil => simp [hw, spellsWord] at h
  | cons c letters =>
    simp only [hw, spellsWord, Bool.and_eq_true, List.all_eq_true] at h
    have hc : step .between c = _ := start_of_isWordStart h.1
    rw [List.cons_append, scan_cons hc,
      scan_run (fun read c (hp : isWordPart c = true) => by simp [step, hp]) h.2,
      scan_of_boundary rfl ?_ hr]
    · simp [← hw]
    · rintro c (rfl | rfl | rfl) <;> rfl

theorem scans_operator {symbol : String} (hne : symbol ≠ "")
    (h : ∀ c ∈ symbol.toList, isOperatorPart c = true) :
    Scans symbol.toList [.operator symbol] := by
  intro rest hr
  cases hs : symbol.toList with
  | nil => exact absurd (String.toList_eq_nil_iff.mp hs) hne
  | cons c more =>
    rw [hs] at h
    have hc : step .between c = _ := start_of_isOperatorPart (h c (by simp))
    rw [List.cons_append, scan_cons hc,
      scan_run (fun read c (hp : isOperatorPart c = true) => by simp [step, hp])
        fun d hd => h d (by simp [hd]),
      scan_of_boundary rfl ?_ hr]
    · simp [← hs]
    · rintro c (rfl | rfl | rfl) <;> rfl

/-- A name ends with the first backquote that no other one follows. -/
theorem scan_name {content : List Char} (h : '`' ∉ content) (hr : rest.head? ≠ some '`') :
    scan .between ('`' :: (content ++ '`' :: rest)) =
      (Token.name (String.ofList content) :: ·) <$> scan .between rest := by
  have hi : ∀ read c, c ≠ '`' → step (.name read) c = some ([], .name (read ++ [c])) := by
    intro read c hc
    simp [step, hc]
  have hq : ∀ read, step (.name read) '`' = some ([], .nameQuote read) := fun _ => rfl
  rw [scan_cons rfl, scan_run hi fun c hc he => h (he ▸ hc), scan_cons (hq _)]
  cases rest with
  | nil => simp [State.finish]
  | cons c rest =>
    have hc : c ≠ '`' := by simpa using hr
    have hs : ∀ read, step (.nameQuote read) c = startAfter (.nameQuote read) c := by
      intro read
      simp [step, hc]
    rw [scan_of_startAfter rfl (hs _)]
    simp

/-- Characters that are each written in a form that reads back inside the quotes. -/
theorem scan_content {content : List Char} {written meant : Char → List Char}
    (h : ∀ read c rest, scan (.string read) (written c ++ rest) =
      scan (.string (read ++ meant c)) rest) :
    scan (.string read) (content.flatMap written ++ rest) =
      scan (.string (read ++ content.flatMap meant)) rest := by
  induction content generalizing read with
  | nil => simp
  | cons c content ih =>
    rw [List.flatMap_cons, List.append_assoc, h, ih]
    simp

/-- A string ends with the first quote that no other one follows. -/
theorem scan_stringEnd (hr : rest.head? ≠ some '"') :
    scan (.string read) ('"' :: rest) =
      (Token.string (String.ofList read) :: ·) <$> scan .between rest := by
  have hq : step (.string read) '"' = some ([], .stringQuote read) := rfl
  rw [scan_cons hq]
  cases rest with
  | nil => simp [State.finish]
  | cons c rest =>
    have hc : c ≠ '"' := by simpa using hr
    have hs : step (.stringQuote read) c = startAfter (.stringQuote read) c := by simp [step, hc]
    rw [scan_of_startAfter rfl hs]
    simp

/-- What the escapes of a text stand for is the text. -/
theorem scan_escapedChar (read : List Char) (c : Char) (rest : List Char) :
    scan (.string read) (Literal.escapedChar c ++ rest) = scan (.string (read ++ [c])) rest := by
  unfold Literal.escapedChar
  split <;> simp_all [scan, step, unescaped]

/-- Guarding the wildcards of an escaped text does not touch its escapes. -/
theorem scan_guarded (read : List Char) (c : Char) (rest : List Char) :
    scan (.string read) ((Literal.escapedChar c).flatMap Pattern.guarded ++ rest) =
      scan (.string (read ++ Pattern.guarded c)) rest := by
  unfold Literal.escapedChar
  split <;> simp_all [scan, step, unescaped, Pattern.guarded]
  split <;> simp_all [scan, step, unescaped]
  next h => rcases h with rfl | rfl <;> simp

theorem scans_bytes {digits : List Char} (h : ∀ c ∈ digits, isHexDigit c = true) :
    Scans ('X' :: '"' :: (digits ++ ['"'])) [.bytes (String.ofList digits)] := by
  intro rest _
  have hx : step .between 'X' = some ([], .word ['X']) := rfl
  have hq : step (.word ['X']) '"' = some ([], .bytes []) := rfl
  have he : ∀ read, step (.bytes read) '"' = some ([.bytes (String.ofList read)], .between) :=
    fun _ => rfl
  have hd : ∀ read c, isHexDigit c = true →
      step (.bytes read) c = some ([], .bytes (read ++ [c])) := by
    intro read c hc
    have hn := ne_of_class hc '"' rfl
    simp [step, hn, hc]
  rw [List.cons_append, List.cons_append, List.append_assoc, List.singleton_append, scan_cons hx,
    scan_cons hq, scan_run hd h, scan_cons (he _)]
  simp

end JsonSelect.Sql
