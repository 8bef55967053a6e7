import JsonSelect.Proofs.KeyCase.Payload

/-! The keys on which camel case and snake case undo each other. They are the keys in camel case on
one side and the keys in snake case on the other. -/
namespace JsonSelect.KeyCase

open Text

variable {c : Char} {key rest : List Char}

/-- Snake case with ASCII characters only: no capital, no dash and no blank, no underscore at the
start, and a small letter after every underscore. -/
structure IsSnake (key : List Char) : Prop where
  isAscii : IsAscii key
  plain : ∀ c ∈ key, c.isUpper = false ∧ c ≠ '-' ∧ isBlank c = false
  head : key.head? ≠ some '_'
  underscore : ∀ before after, key = before ++ '_' :: after → ∃ c ∈ after.head?, c.isLower = true

/-- What can follow the first character of a key in snake case. -/
inductive SnakeTail : List Char → Prop where
  | nil : SnakeTail []
  | plain {c : Char} {rest : List Char} (hu : c.isUpper = false) (hs : isSeparator c = false)
    (h : SnakeTail rest) : SnakeTail (c :: rest)
  | underscore {c : Char} {rest : List Char} (hl : c.isLower = true) (h : SnakeTail rest) :
    SnakeTail ('_' :: c :: rest)

theorem isSeparator_eq_false_iff :
    isSeparator c = false ↔ c ≠ '-' ∧ c ≠ '_' ∧ isBlank c = false := by
  simp [isSeparator, and_assoc]

theorem isUpper_of_isLower (h : c.isLower = true) : c.isUpper = false := by
  simpa using Char.not_isUpper_of_isLower h

theorem isSeparator_of_isLower (h : c.isLower = true) : isSeparator c = false :=
  isSeparator_of_isAlpha (by simp [Char.isAlpha, h])

namespace SnakeTail

theorem mem_plain (h : SnakeTail key) :
    ∀ c ∈ key, c.isUpper = false ∧ c ≠ '-' ∧ isBlank c = false := by
  induction h with
  | nil => exact List.forall_mem_nil _
  | plain hu hs _ ih =>
    have hs := isSeparator_eq_false_iff.mp hs
    exact List.forall_mem_cons.mpr ⟨⟨hu, hs.1, hs.2.2⟩, ih⟩
  | underscore hl _ ih =>
    have hs := isSeparator_eq_false_iff.mp (isSeparator_of_isLower hl)
    have hline : '_'.isUpper = false ∧ '_' ≠ '-' ∧ isBlank '_' = false := by decide
    exact List.forall_mem_cons.mpr
      ⟨hline, List.forall_mem_cons.mpr ⟨⟨isUpper_of_isLower hl, hs.1, hs.2.2⟩, ih⟩⟩

theorem isLower_after (h : SnakeTail key) :
    ∀ before after, key = before ++ '_' :: after → ∃ c ∈ after.head?, c.isLower = true := by
  induction h with
  | nil => intro before after he; simp at he
  | @plain c rest _ hs _ ih =>
    intro before after he
    cases before with
    | nil =>
      obtain ⟨rfl, -⟩ := List.cons.inj he
      cases hs
    | cons _ before => exact ih before after (List.cons.inj he).2
  | @underscore c rest hl _ ih =>
    intro before after he
    rcases before with _ | ⟨_, _ | ⟨_, before⟩⟩
    · obtain ⟨-, rfl⟩ := List.cons.inj he
      exact ⟨c, rfl, hl⟩
    · obtain ⟨rfl, -⟩ := List.cons.inj (List.cons.inj he).2
      cases hl
    · exact ih before after (List.cons.inj (List.cons.inj he).2).2

/-- An underscore takes the small letter after it along, and so the tail ends with no underscore. -/
theorem of_isLower_after (hp : ∀ c ∈ key, c.isUpper = false ∧ c ≠ '-' ∧ isBlank c = false)
    (ha : ∀ before after, key = before ++ '_' :: after → ∃ c ∈ after.head?, c.isLower = true) :
    SnakeTail key := by
  induction key with
  | nil => exact .nil
  | cons c rest ih =>
    obtain ⟨⟨hu, hd, hb⟩, hr⟩ := List.forall_mem_cons.mp hp
    have ht : SnakeTail rest := ih hr fun before after he => ha (c :: before) after (he ▸ rfl)
    by_cases hc : c = '_'
    · subst hc
      obtain ⟨d, hd, hl⟩ := ha [] rest rfl
      cases ht with
      | nil => cases hd
      | plain _ _ ht =>
        cases hd
        exact .underscore hl ht
      | underscore =>
        cases hd
        cases hl
    · exact .plain hu (isSeparator_eq_false_iff.mpr ⟨hd, hc, hb⟩) ht

end SnakeTail

theorem isSnake_iff : IsSnake key ↔ IsAscii key ∧ key.head? ≠ some '_' ∧ SnakeTail key :=
  ⟨fun h => ⟨h.isAscii, h.head, .of_isLower_after h.plain h.underscore⟩,
    fun ⟨ha, hh, ht⟩ => ⟨ha, ht.mem_plain, hh, ht.isLower_after⟩⟩

/-- An underscore comes back from the capital after it. -/
theorem separated_joined (ha : IsAscii key) (h : SnakeTail key) :
    (separated (joined false key)).map Char.toLower = key := by
  induction h with
  | nil => rfl
  | @plain c rest hu hs _ ih =>
    obtain ⟨hc, hr⟩ := isAscii_cons.mp ha
    have hu' : ¬ c.isUpper = true := by simp [hu]
    rw [joined_cons hs hc, if_neg (by simp), separated, if_neg hu', List.map_cons,
      Char.toLower_eq_of_not_isUpper hu', ih hr]
  | @underscore c rest hl _ ih =>
    obtain ⟨hc, hr⟩ := isAscii_cons.mp (isAscii_cons.mp ha).2
    have hup : c.toUpper.isUpper = true := by simp [Char.isAlpha, hl]
    have hlow : c.toUpper.toLower = c := by
      rw [Char.toLower_toUpper_eq_toLower,
        Char.toLower_eq_of_not_isUpper (Char.not_isUpper_of_isLower hl)]
    rw [joined_separator (by decide), joined_cons (isSeparator_of_isLower hl) hc, if_pos rfl,
      separated, if_pos hup, List.map_cons, List.map_cons, hlow, ih hr]
    rfl

theorem snakeCased_camelCased (h : IsSnake key) : snakeCased (camelCased key) = key := by
  obtain ⟨ha, hh, ht⟩ := isSnake_iff.mp h
  cases ht with
  | nil => rfl
  | @plain c rest hu hs ht =>
    obtain ⟨hc, hr⟩ := isAscii_cons.mp ha
    have hl : c.toLower = c := Char.toLower_eq_of_not_isUpper (by simp [hu])
    have hj : IsAscii (c :: joined false rest) :=
      isAscii_cons.mpr ⟨hc, fun d hd => (mem_joined hr hd).1⟩
    rw [camelCased, joined_cons hs hc, if_neg (by simp), lowerFirst_cons hc, hl,
      snakeCased_cons hj, hl, separated_joined hr ht]
  | underscore => exact absurd rfl hh

theorem snakeTail_separated (h : ∀ c ∈ key, isSeparator c = false) :
    SnakeTail ((separated key).map Char.toLower) := by
  induction key with
  | nil => exact .nil
  | cons c rest ih =>
    obtain ⟨hc, hr⟩ := List.forall_mem_cons.mp h
    cases hu : c.isUpper with
    | true =>
      rw [separated, if_pos hu, List.map_cons, List.map_cons]
      exact .underscore (by simp [Char.isAlpha, hu]) (ih hr)
    | false =>
      rw [separated, if_neg (by simp [hu]), List.map_cons]
      exact .plain (Char.isUpper_toLower_eq_false c) (isSeparator_toLower hc) (ih hr)

theorem isAscii_snakeCased (h : IsAscii key) : IsAscii (snakeCased key) := by
  cases key with
  | nil => exact isAscii_nil
  | cons c rest =>
    obtain ⟨hc, hr⟩ := isAscii_cons.mp h
    rw [snakeCased_cons h]
    refine isAscii_cons.mpr ⟨isAscii_toLower hc, fun d hd => ?_⟩
    obtain ⟨e, he, rfl⟩ := List.mem_map.mp hd
    exact isAscii_toLower (isAscii_separated hr e he)

theorem isSnake_snakeCased (h : IsCamel key) : IsSnake (snakeCased key) := by
  obtain ⟨ha, hs, -⟩ := h
  refine isSnake_iff.mpr ⟨isAscii_snakeCased ha, ?_⟩
  cases key with
  | nil => exact ⟨nofun, .nil⟩
  | cons c rest =>
    obtain ⟨hc, hr⟩ := List.forall_mem_cons.mp hs
    have hl : isSeparator c.toLower = false := isSeparator_toLower hc
    rw [snakeCased_cons ha]
    refine ⟨fun he => ?_, .plain (Char.isUpper_toLower_eq_false c) hl (snakeTail_separated hr)⟩
    exact (isSeparator_eq_false_iff.mp hl).2.1 (Option.some.inj he)

/-- What snake case gives back unchanged is what camel case has made, and so it is camel case. -/
theorem camelCased_snakeCased_eq_iff (h : IsAscii key) :
    camelCased (snakeCased key) = key ↔ IsCamel key :=
  ⟨fun he => he ▸ isCamel_camelCased (isAscii_snakeCased h), camelCased_snakeCased⟩

theorem snakeCased_camelCased_eq_iff (h : IsAscii key) :
    snakeCased (camelCased key) = key ↔ IsSnake key :=
  ⟨fun he => he ▸ isSnake_snakeCased (isCamel_camelCased h), snakeCased_camelCased⟩

def camelKeys : Set String := {key | IsCamel key.toList}

def snakeKeys : Set String := {key | IsSnake key.toList}

section Keys

variable {key : String}

theorem camel_snake_eq_iff (h : IsAscii key.toList) :
    camel.apply (snake.apply key) = key ↔ key ∈ camelKeys := by
  rw [← String.toList_inj, apply, apply, String.toList_ofList, String.toList_ofList]
  exact camelCased_snakeCased_eq_iff h

theorem snake_camel_eq_iff (h : IsAscii key.toList) :
    snake.apply (camel.apply key) = key ↔ key ∈ snakeKeys := by
  rw [← String.toList_inj, apply, apply, String.toList_ofList, String.toList_ofList]
  exact snakeCased_camelCased_eq_iff h

theorem mapsTo_snake : Set.MapsTo snake.apply camelKeys snakeKeys := by
  intro key h
  rw [snakeKeys, Set.mem_ofPred_eq, apply, String.toList_ofList]
  exact isSnake_snakeCased h

theorem mapsTo_camel : Set.MapsTo camel.apply snakeKeys camelKeys := by
  intro key h
  rw [camelKeys, Set.mem_ofPred_eq, apply, String.toList_ofList]
  exact isCamel_camelCased h.isAscii

theorem invOn_camel_snake : Set.InvOn camel.apply snake.apply camelKeys snakeKeys :=
  ⟨fun _ h => (camel_snake_eq_iff h.isAscii).mpr h, fun _ h => (snake_camel_eq_iff h.isAscii).mpr h⟩

end Keys

/-- Of the ASCII keys, exactly those in camel case come back from snake case, and exactly those in
snake case come back from camel case. Between these two sets of keys, each way to write a key is a
bijection and the inverse of the other, so no two keys in snake case become equal. -/
theorem camel_snake_inverse :
    (∀ key : String, IsAscii key.toList →
      (camel.apply (snake.apply key) = key ↔ key ∈ camelKeys) ∧
      (snake.apply (camel.apply key) = key ↔ key ∈ snakeKeys)) ∧
    Set.BijOn snake.apply camelKeys snakeKeys ∧ Set.BijOn camel.apply snakeKeys camelKeys ∧
    Set.InvOn camel.apply snake.apply camelKeys snakeKeys :=
  ⟨fun _ h => ⟨camel_snake_eq_iff h, snake_camel_eq_iff h⟩,
    invOn_camel_snake.bijOn mapsTo_snake mapsTo_camel,
    invOn_camel_snake.symm.bijOn mapsTo_camel mapsTo_snake, invOn_camel_snake⟩

/-- Capitals and digits in camel case. In snake case a digit after an underscore does not bring the
underscore back. -/
theorem camel_snake_inverse_digit :
    IsAscii "httpURL2".toList ∧ "httpURL2" ∈ camelKeys ∧ "http_u_r_l2" ∈ snakeKeys ∧
    IsAscii "url_2".toList ∧ "url_2" ∉ snakeKeys ∧ "url2" ∈ camelKeys := by
  have ha : IsAscii "httpURL2".toList := by decide
  have hc : "httpURL2" ∈ camelKeys := ((camel_snake_inverse.1 _ ha).1).mp (by cbv)
  have hs : snake.apply "httpURL2" = "http_u_r_l2" := by cbv
  have hd : IsAscii "url_2".toList := by decide
  have hn : snake.apply (camel.apply "url_2") ≠ "url_2" := by cbv
  exact ⟨ha, hc, hs ▸ camel_snake_inverse.2.1.mapsTo hc, hd,
    fun h => hn (((camel_snake_inverse.1 _ hd).2).mpr h),
    ((camel_snake_inverse.1 "url2" (by decide)).1).mp (by cbv)⟩

end JsonSelect.KeyCase
