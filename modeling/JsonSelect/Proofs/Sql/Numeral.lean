import JsonSelect.Proofs.Sql.Scanning
import JsonSelect.Proofs.Text.Integer
import Mathlib.Data.List.TakeWhile

/-! Numbers as conditions write them. Every number has the text of a numeral, and the scanner takes
a numeral for one token. -/
namespace JsonSelect.Sql

/-- One digit or more. -/
def IsDigits (text : List Char) : Prop := text ≠ [] ∧ ∀ c ∈ text, c.isDigit = true

/-- Nothing, or a point and digits. -/
inductive IsFraction : List Char → Prop where
  | none : IsFraction []
  | digits {ds : List Char} (h : IsDigits ds) : IsFraction ('.' :: ds)

/-- Nothing, or a power of ten with its sign. -/
inductive IsPower : List Char → Prop where
  | none : IsPower []
  | digits {sign : Char} {ds : List Char} (hs : sign = '+' ∨ sign = '-') (h : IsDigits ds) :
    IsPower ('e' :: sign :: ds)

inductive IsMagnitude : List Char → Prop where
  | parts {whole fraction power : List Char} (hw : IsDigits whole) (hf : IsFraction fraction)
    (hp : IsPower power) : IsMagnitude (whole ++ fraction ++ power)

inductive IsNumeral : List Char → Prop where
  | positive {text : List Char} (h : IsMagnitude text) : IsNumeral text
  | negative {text : List Char} (h : IsMagnitude text) : IsNumeral ('-' :: text)

variable {text rest read more : List Char} {state : State}

/-- The characters of numerals. -/
theorem IsNumeral.mem (h : IsNumeral text) {c : Char} (hc : c ∈ text) :
    c.isDigit = true ∨ c = '-' ∨ c = '+' ∨ c = '.' ∨ c = 'e' := by
  have hm : ∀ {magnitude : List Char}, IsMagnitude magnitude → c ∈ magnitude →
      c.isDigit = true ∨ c = '-' ∨ c = '+' ∨ c = '.' ∨ c = 'e' := by
    rintro _ ⟨hw, hf, hp⟩ hc
    rcases List.mem_append.mp hc with hc | hc
    · rcases List.mem_append.mp hc with hc | hc
      · exact .inl (hw.2 c hc)
      · cases hf with
        | none => cases hc
        | digits hd =>
          rcases List.mem_cons.mp hc with rfl | hc
          · simp
          · exact .inl (hd.2 c hc)
    · cases hp with
      | none => cases hc
      | digits hs hd =>
        rcases List.mem_cons.mp hc with rfl | hc
        · simp
        rcases List.mem_cons.mp hc with rfl | hc
        · rcases hs with rfl | rfl <;> simp
        · exact .inl (hd.2 c hc)
  cases h with
  | positive h => exact hm h hc
  | negative h =>
    rcases List.mem_cons.mp hc with rfl | hc
    · simp
    · exact hm h hc

theorem isDigits_toDigits (n : Nat) : IsDigits (Nat.toDigits 10 n) :=
  have h := @Text.isRun_toDigits [] n nofun
  ⟨h.ne_nil, h.isDigit⟩

theorem isDigits_zero : IsDigits ['0'] := ⟨by simp, by simp⟩

theorem isDigit_of_mem_replicate {n : Nat} {c : Char} (h : c ∈ List.replicate n '0') :
    c.isDigit = true := by
  rw [List.eq_of_mem_replicate h]
  rfl

theorem IsDigits.isMagnitude (h : IsDigits text) : IsMagnitude text := by
  simpa using IsMagnitude.parts h .none .none

section Text

variable {digits : List Char}

theorem isMagnitude_plain {order : Int} (h : ∀ c ∈ digits, c.isDigit = true)
    (hne : digits ≠ [] ∨ 0 ≤ order) : IsMagnitude (DecimalLayout.plain digits order) := by
  unfold DecimalLayout.plain
  split
  next ho =>
    have hd : digits ≠ [] := hne.resolve_right (by omega)
    have hz : IsDigits (List.replicate (-order - 1).toNat '0' ++ digits) := by
      refine ⟨by simp [hd], fun c hc => ?_⟩
      rcases List.mem_append.mp hc with hc | hc
      · exact isDigit_of_mem_replicate hc
      · exact h c hc
    simpa using IsMagnitude.parts isDigits_zero (.digits hz) .none
  next ho =>
    have hw : IsDigits (digits.take (order.toNat + 1) ++
        List.replicate (order.toNat + 1 - digits.length) '0') := by
      refine ⟨?_, fun c hc => ?_⟩
      · cases digits <;> simp
      · rcases List.mem_append.mp hc with hc | hc
        · exact h c (List.mem_of_mem_take hc)
        · exact isDigit_of_mem_replicate hc
    have hf : IsDigits (if digits.drop (order.toNat + 1) = [] then ['0']
        else digits.drop (order.toNat + 1)) := by
      split
      · exact ⟨by simp, by simp⟩
      next hd => exact ⟨hd, fun c hc => h c (List.mem_of_mem_drop hc)⟩
    simpa using IsMagnitude.parts hw (.digits hf) .none

theorem isMagnitude_scientific {order : Int} (h : IsDigits digits) :
    IsMagnitude (DecimalLayout.scientific digits order) := by
  have hw : IsDigits (digits.take 1) := by
    refine ⟨?_, fun c hc => h.2 c (List.mem_of_mem_take hc)⟩
    cases hd : digits with
    | nil => exact absurd hd h.1
    | cons c rest => simp
  have hf : IsFraction (if digits.drop 1 = [] then [] else '.' :: digits.drop 1) := by
    split
    · exact .none
    next hd => exact .digits ⟨hd, fun c hc => h.2 c (List.mem_of_mem_drop hc)⟩
  have hp : IsPower ('e' :: (if order < 0 then '-' else '+') ::
      Nat.toDigits 10 order.natAbs) := by
    refine .digits ?_ (isDigits_toDigits _)
    split <;> simp
  simpa [DecimalLayout.scientific] using IsMagnitude.parts hw hf hp

/-- The digits of a positive number are not all zeros. -/
theorem strip_toDigits_ne_nil {n : Nat} (h : n ≠ 0) :
    ((Nat.toDigits 10 n).reverse.dropWhile (· = '0')).reverse ≠ [] := by
  intro he
  have hz : ∀ c ∈ Nat.toDigits 10 n, c = '0' := by
    simpa [List.dropWhile_eq_nil_iff] using he
  have hr : Nat.toDigits 10 n = List.replicate (Nat.toDigits 10 n).length '0' :=
    List.eq_replicate_of_mem hz
  have ho := Nat.ofDigitChars_ten_toDigits (n := n)
  rw [hr, Nat.ofDigitChars_replicate_zero] at ho
  omega

theorem isMagnitude_write {d : Decimal} (h : d.coefficient = 0 → d.scale = 0) :
    IsMagnitude (Number.layout.write d) := by
  have hd : ∀ c ∈ ((Nat.toDigits 10 d.coefficient).reverse.dropWhile (· = '0')).reverse,
      c.isDigit = true := by
    intro c hc
    have hm := (List.dropWhile_sublist _).subset (List.mem_reverse.mp hc)
    exact (isDigits_toDigits _).2 c (List.mem_reverse.mp hm)
  by_cases hz : d.coefficient = 0
  · have ho : d.scale + (Nat.toDigits 10 d.coefficient).length - 1 = 0 := by simp [hz, h hz]
    simp only [DecimalLayout.write, ho]
    rw [if_pos (by decide)]
    exact isMagnitude_plain hd (.inr (Int.le_refl 0))
  · have hne := strip_toDigits_ne_nil hz
    simp only [DecimalLayout.write]
    split
    · exact isMagnitude_plain hd (.inl hne)
    · exact isMagnitude_scientific ⟨hne, hd⟩

theorem Window.low_le_of_nearest? {w : Double.Window} {point : Nat} (h : w.nearest? = some point) :
    w.low ≤ point * w.unit := by
  have hh : ∀ p, w.holds p = true → w.low ≤ p * w.unit := by
    intro p hp
    unfold Double.Window.holds at hp
    split at hp <;> simp at hp <;> omega
  simp only [Double.Window.nearest?] at h
  split at h
  · cases h
  next hf _ => cases h; exact hh _ hf
  next hc => cases h; exact hh _ hc
  next hf hc =>
    split at h <;> cases h
    · exact hh _ hf
    · exact hh _ hc

theorem window_low_pos {d : Double} (scale : Int) (h : d.significand ≠ 0) :
    0 < (d.window scale).low := by
  have hf : 0 < twoTo (d.exponent - 2) * tenTo (-scale) :=
    Nat.mul_pos (Nat.pow_pos (by decide)) (Nat.pow_pos (by decide))
  refine Nat.mul_pos ?_ hf
  split <;> omega

theorem scale_shortest_eq_zero {d : Double} (h : d.significand ≠ 0)
    (hz : d.shortest.coefficient = 0) : d.shortest.scale = 0 := by
  unfold Double.shortest at hz ⊢
  cases hs : (List.range 17).findSome? fun count : Nat =>
      (d.window (d.decimalOrder - count)).nearest?.map fun point =>
        Decimal.mk point (d.decimalOrder - count) with
  | none => simp [hs]
  | some found =>
    obtain ⟨count, _, hc⟩ := List.exists_of_findSome?_eq_some hs
    obtain ⟨point, hp, rfl⟩ := Option.map_eq_some_iff.mp hc
    simp only [hs, Option.getD_some] at hz
    subst hz
    have hl := Window.low_le_of_nearest? hp
    have := window_low_pos (d.decimalOrder - count) h
    omega

/-- Also the doubles that are no number have the text of one; no condition holds them. -/
theorem isNumeral_text (number : Number) : IsNumeral number.text.toList := by
  cases number with
  | integer value =>
    have hm := (isDigits_toDigits value.natAbs).isMagnitude
    rw [Number.text, Text.toList_toString]
    split
    · exact .negative hm
    · exact .positive hm
  | double d =>
    have hm : IsMagnitude
        (if d.significand = 0 then ['0', '.', '0'] else Number.layout.write d.shortest) := by
      split
      · exact IsMagnitude.parts isDigits_zero (.digits isDigits_zero) .none
      next hs => exact isMagnitude_write (scale_shortest_eq_zero hs)
    rw [Number.text, String.toList_ofList, Number.doubleText]
    split
    · exact .negative hm
    · exact .positive hm

end Text

theorem scan_digits (stage next : Stage)
    (hn : ∀ c : Char, c.isDigit = true → stage.next c = some next)
    (hr : ∀ c : Char, c.isDigit = true → next.next c = some next) (h : IsDigits text) :
    scan (.number stage read) (text ++ rest) = scan (.number next (read ++ text)) rest := by
  have hs : ∀ read c, c.isDigit = true →
      step (.number next read) c = some ([], .number next (read ++ [c])) := by
    intro read c hc
    simp [step, hr c hc]
  cases text with
  | nil => exact absurd rfl h.1
  | cons c text =>
    have hc : step (.number stage read) c = some ([], .number next (read ++ [c])) := by
      simp [step, hn c (h.2 c (by simp))]
    rw [List.cons_append, scan_cons hc, scan_run hs fun d hd => h.2 d (by simp [hd])]
    simp

theorem scan_fraction (read : List Char) (h : IsFraction text) :
    ∃ stage, (stage = .whole ∨ stage = .fraction) ∧ ∀ rest,
      scan (.number .whole read) (text ++ rest) = scan (.number stage (read ++ text)) rest := by
  cases h with
  | none => exact ⟨.whole, .inl rfl, by simp⟩
  | digits h =>
    refine ⟨.fraction, .inr rfl, fun rest => ?_⟩
    have hp : step (.number .whole read) '.' = some ([], .number .point (read ++ ['.'])) := rfl
    rw [List.cons_append, scan_cons hp,
      scan_digits .point .fraction (fun c hc => by simp [Stage.next, hc])
        (fun c hc => by simp [Stage.next, hc]) h]
    simp

theorem scan_power (read : List Char) {stage : Stage} (hs : stage = .whole ∨ stage = .fraction)
    (h : IsPower text) : ∃ last, (last = .whole ∨ last = .fraction ∨ last = .power) ∧ ∀ rest,
      scan (.number stage read) (text ++ rest) = scan (.number last (read ++ text)) rest := by
  cases h with
  | none => exact ⟨stage, hs.imp_right .inl, by simp⟩
  | @digits sign ds hc h =>
    refine ⟨.power, .inr (.inr rfl), fun rest => ?_⟩
    have he : step (.number stage read) 'e' = some ([], .number .mark (read ++ ['e'])) := by
      rcases hs with rfl | rfl <;> rfl
    have hc : ∀ read,
        step (.number .mark read) sign = some ([], .number .sign (read ++ [sign])) := by
      intro read
      rcases hc with rfl | rfl <;> rfl
    rw [List.cons_append, List.cons_append, scan_cons he, scan_cons (hc _),
      scan_digits .sign .power (fun c hc => by simp [Stage.next, hc])
        (fun c hc => by simp [Stage.next, hc]) h]
    simp

/-- `before` is the sign that has been read. -/
theorem scan_magnitude (before : List Char) (h : IsMagnitude text)
    (hw : ∀ whole, IsDigits whole → ∀ rest,
      scan state (whole ++ rest) = scan (.number .whole (before ++ whole)) rest)
    (hr : Boundary rest) : scan state (text ++ rest) =
      (Token.number (String.ofList (before ++ text)) :: ·) <$> scan .between rest := by
  obtain ⟨hd, hf, hp⟩ := h
  rename_i whole fraction power
  obtain ⟨stage, hs, hf⟩ := scan_fraction (before ++ whole) hf
  obtain ⟨last, hl, hp⟩ := scan_power (before ++ whole ++ fraction) hs hp
  have he : (State.number last (before ++ whole ++ fraction ++ power)).finish =
      some [.number (String.ofList (before ++ whole ++ fraction ++ power))] := by
    rcases hl with rfl | rfl | rfl <;> rfl
  rw [List.append_assoc, List.append_assoc, hw whole hd, hf, hp, scan_of_boundary he ?_ hr]
  · simp
  · intro c hc
    rcases hl with rfl | rfl | rfl <;> rcases hc with rfl | rfl | rfl <;> rfl

theorem IsNumeral.scans (h : IsNumeral text) : Scans text [.number (String.ofList text)] := by
  intro rest hr
  cases h with
  | positive h =>
    refine scan_magnitude [] h (fun whole hw rest => ?_) hr
    cases whole with
    | nil => exact absurd rfl hw.1
    | cons c ds =>
      have hc : step .between c = _ := start_of_isDigit (hw.2 c (by simp))
      have hs : ∀ read c, c.isDigit = true →
          step (.number .whole read) c = some ([], .number .whole (read ++ [c])) := by
        intro read c hc
        simp [step, Stage.next, hc]
      rw [List.cons_append, scan_cons hc, scan_run hs fun d hd => hw.2 d (by simp [hd])]
      simp
  | negative h =>
    have hm : step .between '-' = some ([], .number .minus ['-']) := rfl
    rw [List.cons_append, scan_cons hm, scan_magnitude ['-'] h ?_ hr]
    · simp
    · intro whole hw rest
      exact scan_digits .minus .whole (fun c hc => by simp [Stage.next, hc])
        (fun c hc => by simp [Stage.next, hc]) hw

end JsonSelect.Sql
