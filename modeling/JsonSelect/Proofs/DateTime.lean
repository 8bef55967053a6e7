import JsonSelect.DateTime.Reading
import JsonSelect.Proofs.Text.Blank
import JsonSelect.Proofs.Text.Integer
import Mathlib

/-! Dates and times are read back from their own text, whichever form they were first read from, and
so writing what has been read a second time changes nothing. -/
namespace JsonSelect.DateTime

open Text

variable {digits rest text : List Char} {least most width value hour minute second : Nat}
  {date : Date} {t : DateTime}

section Numbers

theorem isRun_padded (width value : Nat) (hr : ∀ c ∈ rest.head?, c.isDigit = false) :
    IsRun (padded width value) rest where
  ne_nil := by simp [padded, Nat.toDigits_ne_nil]
  isDigit c hc := by
    rcases List.mem_append.mp hc with hz | hd
    · rw [List.eq_of_mem_replicate hz]
      rfl
    · exact Nat.isDigit_of_mem_toDigits (by decide) (by decide) hd
  ends := hr

theorem ofDigitChars_padded (width value : Nat) :
    Nat.ofDigitChars 10 (padded width value) 0 = value := by
  simp only [padded]
  rw [Nat.ofDigitChars_append, Nat.ofDigitChars_replicate_zero, Nat.mul_zero,
    Nat.ofDigitChars_ten_toDigits]

theorem length_padded (hw : 0 < width) (hv : value < 10 ^ width) :
    (padded width value).length = width := by
  have hl := (Nat.length_toDigits_le_iff (by decide) hw).mpr hv
  rw [padded, List.length_append, List.length_replicate]
  omega

/-- One reader of a chain, whose result the rest of the chain goes on with. -/
theorem bind_read {α β : Type} {x : Option (α × List Char)} {value : α}
    {next : α × List Char → Option β} (h : x = some (value, rest)) :
    x.bind next = next (value, rest) := by
  rw [h, Option.bind_some]

theorem readDigits_of_isRun (h : IsRun digits rest) (hl : least ≤ digits.length)
    (hm : digits.length ≤ most) :
    readDigits least most (digits ++ rest) = some (Nat.ofDigitChars 10 digits 0, rest) := by
  have hr : ((digits ++ rest).take most).takeWhile Char.isDigit = digits := by
    rw [List.take_append, List.take_of_length_le hm]
    refine takeWhile_run h.isDigit fun c hc => h.ends c ?_
    rw [List.head?_take] at hc
    split at hc
    · cases hc
    · exact hc
  simp only [readDigits, hr, if_neg (Nat.not_lt.mpr hl), List.drop_left]

theorem trimStart_of_isRun (h : IsRun digits rest) :
    trimStart (digits ++ rest) = digits ++ rest := by
  obtain ⟨c, more, rfl⟩ := List.exists_cons_of_ne_nil h.ne_nil
  have hc : isBlank c = false := isBlank_of_isDigit (h.isDigit c List.mem_cons_self)
  rw [List.cons_append, trimStart, List.dropWhile_cons_of_neg (by simp [hc])]

theorem readDigits_padded (hw : 0 < width) (hv : value < 10 ^ width) (hl : least ≤ width)
    (hm : width ≤ most) (hr : ∀ c ∈ rest.head?, c.isDigit = false) :
    readDigits least most (padded width value ++ rest) = some (value, rest) := by
  have hp := length_padded hw hv
  rw [readDigits_of_isRun (isRun_padded width value hr) (by omega) (by omega),
    ofDigitChars_padded]

theorem readNumber_padded (hv : value < 100) (hr : ∀ c ∈ rest.head?, c.isDigit = false) :
    readNumber 2 (padded 2 value ++ rest) = some (value, rest) := by
  rw [readNumber, trimStart_of_isRun (isRun_padded 2 value hr),
    readDigits_padded (by decide) hv (by decide) (by decide) hr]

theorem ends_cons {c : Char} (hc : c.isDigit = false) :
    ∀ d ∈ (c :: rest).head?, d.isDigit = false := by
  rintro d ⟨⟩
  exact hc

theorem run_ne_cons {c : Char} {more : List Char} (h : IsRun digits rest) (hc : c.isDigit = false) :
    digits ++ rest ≠ c :: more := by
  obtain ⟨d, tail, rfl⟩ := List.exists_cons_of_ne_nil h.ne_nil
  intro he
  obtain ⟨rfl, -⟩ := List.cons.inj he
  rw [h.isDigit _ List.mem_cons_self] at hc
  cases hc

/-- A year with a sign is read to the end of its digits. -/
theorem readYear_signed {year : Int} (h : IsRun digits rest)
    (hy : Nat.ofDigitChars 10 digits 0 = year.natAbs) :
    readYear ((if year < 0 then '-' else '+') :: (digits ++ rest)) = some (year, rest) := by
  have hl : digits.length ≤ (digits ++ rest).length := by simp
  have hd := readDigits_of_isRun h (List.length_pos_iff.mpr h.ne_nil) hl
  rw [hy] at hd
  split
  next hn =>
    have hs : -1 * (year.natAbs : Int) = year := by omega
    refine (bind_read hd).trans ?_
    exact congrArg (fun value => some (value, rest)) hs
  next hn =>
    have hs : 1 * (year.natAbs : Int) = year := by omega
    refine (bind_read hd).trans ?_
    exact congrArg (fun value => some (value, rest)) hs

/-- A year is read back with or without a sign, whatever its length. -/
theorem readYear_yearText (year : Int) (hr : ∀ c ∈ rest.head?, c.isDigit = false) :
    readYear (yearText year ++ rest) = some (year, rest) := by
  have hd := isRun_padded 4 year.natAbs hr
  rw [yearText]
  split
  next hy =>
    have hn : year.toNat = year.natAbs := by omega
    have hc : (year.natAbs : Int) = year := by omega
    rw [hn]
    simp only [readYear, trimStart_of_isRun hd]
    split
    next he => exact absurd he (run_ne_cons hd (by decide))
    next he => exact absurd he (run_ne_cons hd (by decide))
    next =>
      rw [readDigits_padded (by decide) (by omega) (by decide) (by decide) hr]
      exact congrArg (fun value => some (value, rest)) hc
  next =>
    exact readYear_signed hd (ofDigitChars_padded 4 year.natAbs)

end Numbers

section Parts

theorem readChar_cons (c : Char) (rest : List Char) : readChar c (c :: rest) = some ((), rest) :=
  if_pos rfl

theorem readDate_text (hm : date.month < 100) (hd : date.day < 100)
    (hr : ∀ c ∈ rest.head?, c.isDigit = false) :
    readDate (yearText date.year ++ '-' :: (padded 2 date.month ++ '-' ::
      (padded 2 date.day ++ rest))) = some (date, rest) := by
  have hdash {more : List Char} : ∀ c ∈ ('-' :: more).head?, c.isDigit = false := ends_cons rfl
  simp [readDate, readYear_yearText _ hdash, readChar_cons, readNumber_padded hm hdash,
    readNumber_padded hd hr]

theorem readClock_text (hh : hour < 100) (hm : minute < 100) (hs : second < 100) :
    readClock (padded 2 hour ++ ':' :: (padded 2 minute ++ ':' :: padded 2 second)) =
      some ((hour, minute, second), []) := by
  have hcolon {more : List Char} : ∀ c ∈ (':' :: more).head?, c.isDigit = false := ends_cons rfl
  have hsec := @readNumber_padded [] second hs nofun
  rw [List.append_nil] at hsec
  simp [readClock, readNumber_padded hh hcolon, readNumber_padded hm hcolon, readChar_cons, hsec,
    readFraction]

/-- The parts of a date and time as its text shows them. -/
def shown (date : Date) (hour minute second : Nat) : List Char :=
  yearText date.year ++ '-' :: (padded 2 date.month ++ '-' :: (padded 2 date.day ++
    ' ' :: (padded 2 hour ++ ':' :: (padded 2 minute ++ ':' :: padded 2 second))))

theorem monthLength_le (year : Int) (month : Nat) : Date.monthLength year month ≤ 31 := by
  unfold Date.monthLength
  split_ifs <;> decide

theorem bounds_of_ofParts? (h : ofParts? date hour minute second = some t) :
    date.month < 100 ∧ date.day < 100 ∧ hour < 100 ∧ minute < 100 ∧ second < 100 := by
  unfold ofParts? at h
  split at h
  next hp =>
    obtain ⟨hd, hh, hm, hs⟩ := hp
    simp only [Date.isValid, decide_eq_true_eq] at hd
    have hl := monthLength_le date.year date.month
    omega
  next => cases h

/-- A leap second is shown as the second 60 that it was read from. -/
theorem toList_text_of_ofParts? (h : ofParts? date hour minute second = some t) :
    t.text.toList = shown date hour minute second := by
  unfold ofParts? at h
  split at h
  next =>
    split at h
    next hs =>
      cases h
      simp [DateTime.text, shown, nanoseconds, hs]
    next =>
      cases h
      simp [DateTime.text, shown, nanoseconds]
  next => cases h

theorem ofLocal?_shown (h : ofParts? date hour minute second = some t) :
    ofLocal? readBlanks (shown date hour minute second) = some t := by
  obtain ⟨hmonth, hday, hh, hm, hs⟩ := bounds_of_ofParts? h
  have hspace {more : List Char} : ∀ c ∈ (' ' :: more).head?, c.isDigit = false := ends_cons rfl
  have hcolon {more : List Char} : ∀ c ∈ (':' :: more).head?, c.isDigit = false := ends_cons rfl
  have hb : ∀ more, readBlanks (' ' :: (padded 2 hour ++ ':' :: more)) =
      some ((), padded 2 hour ++ ':' :: more) := by
    intro more
    rw [readBlanks, trimStart, List.dropWhile_cons_of_pos (by decide), ← trimStart,
      trimStart_of_isRun (isRun_padded 2 hour hcolon)]
  simp [ofLocal?, shown, readDate_text hmonth hday hspace, hb, readClock_text hh hm hs, h]

theorem readDigits_eq_none {c : Char} (hl : 0 < least) (hc : c.isDigit = false) :
    readDigits least most (c :: rest) = none := by
  cases most with
  | zero => simp [readDigits, hl]
  | succ most => simp [readDigits, hl, hc]

theorem readSeparator_space : readSeparator (' ' :: rest) = some ((), rest) := by
  simp [readSeparator]

/-- The text of a date and time has no offset. -/
theorem ofZoned?_shown (h : ofParts? date hour minute second = some t) :
    ofZoned? (shown date hour minute second) = none := by
  obtain ⟨hmonth, hday, hh, hm, hs⟩ := bounds_of_ofParts? h
  have hdash {more : List Char} : ∀ c ∈ ('-' :: more).head?, c.isDigit = false := ends_cons rfl
  have hcolon {more : List Char} : ∀ c ∈ (':' :: more).head?, c.isDigit = false := ends_cons rfl
  have hspace {more : List Char} : ∀ c ∈ (' ' :: more).head?, c.isDigit = false := ends_cons rfl
  have hpad {value : Nat} (hv : value < 100) {more : List Char}
      (hr : ∀ c ∈ more.head?, c.isDigit = false) :
      readDigits 2 2 (padded 2 value ++ more) = some (value, more) :=
    readDigits_padded (by decide) hv (by decide) (by decide) hr
  rw [shown, yearText]
  split
  next hy =>
    have hyear : date.year.toNat < 10 ^ 4 := by omega
    have hend := @hpad _ hs [] nofun
    rw [List.append_nil] at hend
    refine (bind_read (readDigits_padded (by decide) hyear (le_refl 4) (le_refl 4) hdash)).trans ?_
    refine (bind_read (readChar_cons '-' _)).trans ?_
    refine (bind_read (hpad hmonth hdash)).trans ?_
    refine (bind_read (readChar_cons '-' _)).trans ?_
    refine (bind_read (hpad hday hspace)).trans ?_
    refine (bind_read readSeparator_space).trans ?_
    refine (bind_read (hpad hh hcolon)).trans ?_
    refine (bind_read (readChar_cons ':' _)).trans ?_
    refine (bind_read (hpad hm hcolon)).trans ?_
    refine (bind_read (readChar_cons ':' _)).trans ?_
    refine (bind_read hend).trans ?_
    rfl
  next =>
    rw [List.cons_append, ofZoned?, readDigits_eq_none (by decide) (by split <;> rfl)]
    rfl

end Parts

section Forms

variable {between : Reader Unit}

/-- The date and time is put together from its parts. -/
def HasParts (t : DateTime) : Prop :=
  ∃ date hour minute second, ofParts? date hour minute second = some t

theorem hasParts_of_ite
    (h : (if text = [] then ofParts? date hour minute second else none) = some t) :
    HasParts t := by
  split at h
  next => exact ⟨_, _, _, _, h⟩
  next => cases h

theorem hasParts_of_ofZoned? (h : ofZoned? text = some t) : HasParts t := by
  iterate 13 obtain ⟨⟨_, _⟩, -, h⟩ := Option.bind_eq_some_iff.mp h
  exact hasParts_of_ite h

theorem hasParts_of_ofLocal? (h : ofLocal? between text = some t) : HasParts t := by
  obtain ⟨⟨_, _⟩, -, h⟩ := Option.bind_eq_some_iff.mp h
  obtain ⟨⟨_, _⟩, -, h⟩ := Option.bind_eq_some_iff.mp h
  obtain ⟨⟨⟨_, _, _⟩, _⟩, -, h⟩ := Option.bind_eq_some_iff.mp h
  exact hasParts_of_ite h

theorem hasParts_of_ofDate? (h : ofDate? text = some t) : HasParts t := by
  obtain ⟨⟨_, _⟩, -, h⟩ := Option.bind_eq_some_iff.mp h
  exact hasParts_of_ite h

/-- It is, whatever the form it was read from. -/
theorem hasParts_of_ofText? (h : ofText? text = some t) : HasParts t := by
  simp only [ofText?, Option.orElse_eq_orElse, Option.orElse_eq_or, Option.or_eq_some_iff] at h
  rcases h with h | ⟨-, h | ⟨-, h | ⟨-, h⟩⟩⟩
  · exact hasParts_of_ofZoned? h
  · exact hasParts_of_ofLocal? h
  · exact hasParts_of_ofLocal? h
  · exact hasParts_of_ofDate? h

end Forms

theorem isBlank_head_yearText (year : Int) :
    ∀ c ∈ (yearText year ++ rest).head?, isBlank c = false := by
  rw [yearText]
  split
  next =>
    have hp := @isRun_padded [] 4 year.toNat nofun
    obtain ⟨d, more, he⟩ := List.exists_cons_of_ne_nil hp.ne_nil
    rw [he]
    rintro c ⟨⟩
    exact isBlank_of_isDigit (hp.isDigit d (he ▸ List.mem_cons_self))
  next =>
    rintro c ⟨⟩
    split <;> decide

/-- There are no blanks at the ends. -/
theorem trim_shown (date : Date) (hour minute second : Nat) :
    trim (shown date hour minute second) = shown date hour minute second := by
  have hp := @isRun_padded [] 2 second nofun
  obtain ⟨body, c, he⟩ : ∃ body c, padded 2 second = body ++ [c] :=
    ⟨_, _, (List.dropLast_append_getLast hp.ne_nil).symm⟩
  have hc : isBlank c = false := isBlank_of_isDigit (hp.isDigit c (by simp [he]))
  have hs : shown date hour minute second = yearText date.year ++ ('-' :: (padded 2 date.month ++
      '-' :: (padded 2 date.day ++ ' ' :: (padded 2 hour ++ ':' :: (padded 2 minute ++
        ':' :: body))))) ++ [c] := by
    simp [shown, he]
  rw [hs]
  refine trim_eq_self ?_ hc
  rw [List.append_assoc]
  exact isBlank_head_yearText date.year

/-- A date and time that was read is read from its own text. -/
theorem ofText?_text (h : ofText? text = some t) : ofText? t.text.toList = some t := by
  obtain ⟨date, hour, minute, second, hp⟩ := hasParts_of_ofText? h
  simp [ofText?, toList_text_of_ofParts? hp, trim_shown, ofZoned?_shown hp, ofLocal?_shown hp]

theorem ofText?_append {before after : List Char} (hb : ∀ c ∈ before, isBlank c = true)
    (ha : ∀ c ∈ after, isBlank c = true) : ofText? (before ++ text ++ after) = ofText? text := by
  simp only [ofText?, trim_append hb ha]

theorem format_eq_ok_iff {source formatted : String} :
    format source = .ok formatted ↔ ∃ t, ofText? source.toList = some t ∧ t.text = formatted := by
  rw [format]
  split
  next t ht => simp [ht]
  next ht => simp [ht]

/-- A text that is the result of formatting is formatted as itself, and blanks around a text do not
change what it is formatted as. -/
theorem formatted_is_fixed {source formatted : String} (h : format source = .ok formatted) :
    format formatted = .ok formatted ∧
      ∀ before after : String,
        (∀ c ∈ before.toList, isBlank c = true) → (∀ c ∈ after.toList, isBlank c = true) →
          format (before ++ source ++ after) = .ok formatted := by
  obtain ⟨t, ht, rfl⟩ := format_eq_ok_iff.mp h
  refine ⟨format_eq_ok_iff.mpr ⟨t, ofText?_text ht, rfl⟩, fun before after hb ha => ?_⟩
  refine format_eq_ok_iff.mpr ⟨t, ?_, rfl⟩
  rw [String.toList_append, String.toList_append, ofText?_append hb ha, ht]

/-- A leap second with a fraction and an offset, a year before the first with single digits, a year
of five digits with no blank before the hour, and a date alone. -/
theorem formatted_is_fixed_forms :
    format "2016-12-31t23:59:60.25+00:00" = .ok "2016-12-31 23:59:60" ∧
    format "2016-12-31 23:59:60" = .ok "2016-12-31 23:59:60" ∧
    format "\n -1-2- 3T4:5:6 " = .ok "-0001-02-03 04:05:06" ∧
    format "-0001-02-03 04:05:06" = .ok "-0001-02-03 04:05:06" ∧
    format "+12345-1-0123:59:5.9" = .ok "+12345-01-01 23:59:05" ∧
    format "+12345-01-01 23:59:05" = .ok "+12345-01-01 23:59:05" ∧
    format "2024-02-29" = .ok "2024-02-29 00:00:00" ∧
    format (" \t" ++ "2024-02-29" ++ "\u3000") = .ok "2024-02-29 00:00:00" := by
  have hl : format "2016-12-31t23:59:60.25+00:00" = .ok "2016-12-31 23:59:60" := by cbv
  have hb : format "\n -1-2- 3T4:5:6 " = .ok "-0001-02-03 04:05:06" := by cbv
  have hf : format "+12345-1-0123:59:5.9" = .ok "+12345-01-01 23:59:05" := by cbv
  have hd : format "2024-02-29" = .ok "2024-02-29 00:00:00" := by cbv
  have hs : (∀ c ∈ " \t".toList, isBlank c = true) ∧ ∀ c ∈ "\u3000".toList, isBlank c = true := by
    constructor <;> simp <;> decide
  exact ⟨hl, (formatted_is_fixed hl).1, hb, (formatted_is_fixed hb).1, hf,
    (formatted_is_fixed hf).1, hd, (formatted_is_fixed hd).2 _ _ hs.1 hs.2⟩

end JsonSelect.DateTime
